import Ork3.Model.ProjectCatalog

/-!
# Merging topics

The labels of topics are compared by their keys; a merge moves the sessions of some topics to
another one (`apply_topic_merges` of `projects/catalog.rs`).
-/

namespace Ork3.Projects

open Ork3.Library

structure SemanticTopicMerge where
  into : String
  «from» : List String
  deriving DecidableEq

section
variable (ext : External)

/-- The words of a label, separated by single blanks and in lowercase. -/
def normalizeTopicLabel (label : String) : String :=
  let words := (label.toList.splitOnP Terminal.isWhitespace).filter (· ≠ [])
  ext.toLowercase (String.ofList ([' '].intercalate words))

def semanticTopicKey (label : String) : String :=
  ext.versionedKey (utf8Bytes "ork3-semantic-topic-v1" ++ [0])
    [utf8Bytes (normalizeTopicLabel ext label)]

namespace ProjectCatalog

/-- The labels of one merge are checked after those of the merges before it, whose `from` keys are
in `seenFrom`. -/
def checkTopicMerge (known seenFrom : List String) (merge : SemanticTopicMerge) :
    Except CatalogError (List String) :=
  let intoKey := semanticTopicKey ext merge.into
  if merge.from.isEmpty || intoKey ∉ known then
    .error .sqlite
  else
    merge.from.foldlM (fun seenFrom label =>
      let fromKey := semanticTopicKey ext label
      if fromKey = intoKey ∨ fromKey ∉ known ∨ fromKey ∈ seenFrom then .error .sqlite
      else .ok (fromKey :: seenFrom)) seenFrom

/-- The rows of one topic move to another. -/
def moveTopic (db : ProjectCatalog) (fromKey intoKey into : String) (observedAt : Int) :
    ProjectCatalog :=
  { db with semanticAssignments := db.semanticAssignments.map fun row =>
      if row.topicKey = fromKey then
        { row with topicKey := intoKey, topicLabel := into, classifiedAt := observedAt }
      else
        row }

def applyTopicMerges (db : ProjectCatalog) (merges : List SemanticTopicMerge)
    (observedAt : Int) : Except CatalogError ProjectCatalog := do
  let known := db.semanticAssignments.values.map (·.topicKey)
  let _ ← merges.foldlM (checkTopicMerge ext known) []
  let db := merges.foldl (fun db merge =>
    merge.from.foldl (fun db label =>
      db.moveTopic (semanticTopicKey ext label) (semanticTopicKey ext merge.into) merge.into
        observedAt) db) db
  return db.bumpRevision

end ProjectCatalog

end

end Ork3.Projects
