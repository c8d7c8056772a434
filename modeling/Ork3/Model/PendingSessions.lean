import Ork3.Library.Grouping
import Ork3.Model.SessionPages

/-!
# Sessions that wait for a topic

`projects/catalog.rs`, `pending_semantic_sessions`. The query reads the sessions worth classifying,
most recently active first. Those with one title form a group: one session represents the stale ones
of its group, and a fresh one lends them its topic.
-/

namespace Ork3.Projects

open Ork3.Library

structure PendingSemanticDuplicate where
  stableKey : String
  fingerprint : String
  deriving DecidableEq

structure InheritedSemanticTopic where
  topicKey : String
  topicLabel : String
  backendUsed : String
  modelUsed : Option String
  deriving DecidableEq

structure PendingSemanticSession where
  stableKey : String
  title : String
  cwd : Option String
  backend : String
  storedFingerprint : Option String
  duplicates : List PendingSemanticDuplicate
  inheritedTopic : Option InheritedSemanticTopic
  deriving DecidableEq

/-- `LIKE 'New session - %'`, which ignores the case of ASCII letters. -/
def isNewSessionTitle (title : String) : Bool :=
  "new session - ".toList.isPrefixOf (title.toList.map Char.toLower)

/-- The user wrote enough, or nothing is known of what the user wrote and the title says more than
the default one. -/
def SessionRow.worthClassifying (row : SessionRow) : Bool :=
  (row.userWeightKnown && decide (minAnyChars ≤ row.userChars) &&
      (decide (minSubstantiveTurns ≤ row.userTurns) ||
        decide (minSubstantiveChars ≤ row.userChars))) ||
    (!row.userWeightKnown && !isNewSessionTitle row.title)

/-- A session of the query with its topic. -/
structure PendingRow where
  stableKey : String
  session : SessionRow
  topic : Option SemanticRow
  deriving DecidableEq

namespace PendingRow

/-- `ORDER BY s.last_activity_at DESC, s.stable_key ASC`. -/
def queriedBefore (x y : PendingRow) : Prop :=
  x.session.lastActivityAt > y.session.lastActivityAt ∨
    (x.session.lastActivityAt = y.session.lastActivityAt ∧ x.stableKey ≤ y.stableKey)

instance : DecidableRel queriedBefore := fun _ _ => inferInstanceAs (Decidable (_ ∨ _))

def pending (row : PendingRow) : PendingSemanticSession where
  stableKey := row.stableKey
  title := row.session.title
  cwd := row.session.cwd
  backend := row.session.backend
  storedFingerprint := row.topic.map (·.fingerprint)
  duplicates := []
  inheritedTopic := none

end PendingRow

namespace ProjectCatalog
variable (ext : External) (db : ProjectCatalog)

/-- `JOIN assignments`, `LEFT JOIN semantic_assignments` and the conditions of the query. -/
def pendingRow (stableKey : String) (session : SessionRow) : Option PendingRow :=
  if (db.assignments.lookup stableKey).any (fun a => !a.locked) &&
      session.sessionClass = .interactive && session.worthClassifying then
    some ⟨stableKey, session, db.semanticAssignments.lookup stableKey⟩
  else none

def pendingRows : List PendingRow :=
  (db.sessions.entries.filterMap fun e => db.pendingRow e.1 e.2).insertionSort
    PendingRow.queriedBefore

end ProjectCatalog

section
variable (ext : External)

/-- The fingerprint of what the session is now. -/
def PendingRow.fingerprint (row : PendingRow) : String :=
  semanticFingerprint ext row.session.title row.session.cwd row.session.backend

def PendingRow.stale (row : PendingRow) : Bool :=
  row.pending.storedFingerprint ≠ some (row.fingerprint ext)

/-- The topic of the first session of the group whose topic is current. -/
def seedTopic (group : List PendingRow) : Option InheritedSemanticTopic :=
  group.findSome? fun row =>
    if row.stale ext then none
    else row.topic.map fun topic =>
      ⟨topic.topicKey, topic.topicLabel, topic.backendUsed, topic.modelUsed⟩

/-- The loop over the groups; `consumed` counts the sessions taken so far. -/
def takeGroups (limit : Nat) :
    List String → Table String (List PendingRow) → Nat → List PendingSemanticSession
  | [], _, _ => []
  | normalized :: order, groups, consumed =>
    if limit ≤ consumed then []
    else
      match groups.lookup normalized with
      | none => takeGroups limit order groups consumed
      | some group =>
        let groups := groups.erase normalized
        match (group.filter (PendingRow.stale ext)).take (limit - consumed) with
        | [] => takeGroups limit order groups consumed
        | representative :: duplicates =>
          { representative.pending with
            inheritedTopic := seedTopic ext group
            duplicates := duplicates.map fun row => ⟨row.stableKey, row.fingerprint ext⟩ } ::
            takeGroups limit order groups (consumed + (1 + duplicates.length))

namespace ProjectCatalog

def pendingSemanticSessions (db : ProjectCatalog) (limit : Nat) : List PendingSemanticSession :=
  let grouped := groupInOrder (fun row : PendingRow => normalizeSessionTitle ext row.session.title)
    db.pendingRows
  takeGroups ext limit grouped.order grouped.groups 0

end ProjectCatalog

/-- What a classification pass writes for a pending session and its duplicates: the fingerprint of
the session is computed from what the pending session says. -/
def PendingSemanticSession.fingerprints (session : PendingSemanticSession) :
    List (String × String) :=
  (session.stableKey, semanticFingerprint ext session.title session.cwd session.backend) ::
    session.duplicates.map fun duplicate => (duplicate.stableKey, duplicate.fingerprint)

end

end Ork3.Projects
