import Ork3.Library.JsonText
import Ork3.Library.Tokens
import Ork3.Model.HookConfig
import Ork3.Model.PendingSessions
import Ork3.Model.SemanticTopics

/-!
# Replies of the topic classifier

`projects/semantic.rs`, `extract_json` and `parse_response`. A backend answers with prose around a
JSON object that puts the sessions of a batch into clusters. The reply is applied whole or not at
all.
-/

namespace Ork3.Integration.Value

def asU64 : Value → Option UInt64
  | .number (.posInt n) => some n
  | _ => none

end Ork3.Integration.Value

namespace Ork3.Projects

open Ork3.Library Ork3.Integration

/-! ### The object in a reply -/

structure ObjectScan where
  depth : Nat
  inString : Bool
  escaped : Bool
  deriving DecidableEq

namespace ObjectScan

def start : ObjectScan := ⟨0, false, false⟩

/-- One character; those the scan looks at are ASCII, so the bytes of the others change nothing. -/
def next (scan : ObjectScan) (c : Char) : ObjectScan :=
  if scan.inString then
    if scan.escaped then { scan with escaped := false }
    else if c = '\\' then { scan with escaped := true }
    else if c = '"' then { scan with inString := false }
    else scan
  else if c = '"' then { scan with inString := true }
  else if c = '{' then { scan with depth := scan.depth + 1 }
  else if c = '}' then { scan with depth := scan.depth - 1 }
  else scan

/-- The brace that closes the first one. -/
def closes (scan : ObjectScan) (c : Char) : Bool :=
  !scan.inString && c = '}' && (scan.next c).depth = 0

/-- The text up to the brace that closes the first one. -/
def run : ObjectScan → List Char → Option (List Char)
  | _, [] => none
  | scan, c :: text =>
    if scan.closes c then some [c] else ((scan.next c).run text).map (c :: ·)

end ObjectScan

/-- `find('{')`, and the scan from there. -/
def extractJson (response : String) : Option String :=
  (ObjectScan.start.run (response.toList.dropWhile (· ≠ '{'))).map String.ofList

/-! ### The clusters of a reply -/

inductive BatchError
  | failed (message : String)
  | quotaExceeded
  deriving DecidableEq

/-- `serde_json::from_str` with the text of its error, and the text of a value. -/
structure SerdeJson where
  fromStr : String → Except String Value
  display : Value → String

def maxTopicLabelChars : Nat := 80

def disallowedTopicLabels : List String :=
  ["未分类", "未分类会话", "其他", "杂项", "misc", "uncategorized", "other", "no clear topic"]

def isAsciiPunctuation (c : Char) : Bool :=
  ('!' ≤ c && c ≤ '/') || (':' ≤ c && c ≤ '@') || ('[' ≤ c && c ≤ '\x60') ||
    ('\x7b' ≤ c && c ≤ '~')

section
variable (ext : External) (serde : SerdeJson) (batch : List PendingSemanticSession)
  (backend : String) (model : Option String)

def isDisallowedTopic (topic : String) : Bool :=
  let trimmed := trimBy isAsciiPunctuation (Terminal.trim topic.toList)
  let words := (trimmed.splitOnP Terminal.isWhitespace).filter (· ≠ [])
  ext.toLowercase (String.ofList ([' '].intercalate words)) ∈ disallowedTopicLabels

/-- The label of a cluster, when it may be used. -/
def clusterTopic (cluster : Value) : Except BatchError String :=
  let topic := ((cluster.get "topic").bind Value.asStr).map fun s =>
    String.ofList (Terminal.trim s.toList)
  match topic.filter (· ≠ "") with
  | none => .error (.failed "cluster missing topic")
  | some topic =>
    if topic.length > maxTopicLabelChars then .error (.failed "cluster topic is too long")
    else if isDisallowedTopic ext topic then
      .error (.failed "cluster topic is a disallowed catch-all label")
    else .ok topic

def clusterIds (cluster : Value) : Except BatchError (List Value) :=
  match (cluster.get "ids").bind Value.asArray with
  | none => .error (.failed "cluster missing ids")
  | some ids => .ok ids

/-- The session an id names, counted from one. -/
def sessionSlot (id : Value) : Option (Fin batch.length) :=
  id.asU64.bind fun value =>
    if h : 1 ≤ value.toNat ∧ value.toNat ≤ batch.length then
      some ⟨value.toNat - 1, by omega⟩
    else none

/-- What the loop has gathered. -/
structure Claims where
  assignments : List SemanticAssignment
  claimed : Fin batch.length → Bool

def claimId (topic : String) (claims : Claims batch) (id : Value) :
    Except BatchError (Claims batch) :=
  match sessionSlot batch id with
  | none => .error (.failed s!"id out of range: {serde.display id}")
  | some slot =>
    if claims.claimed slot then
      .error (.failed s!"id {slot.val + 1} appears twice")
    else
      let session := batch.get slot
      .ok {
        assignments := claims.assignments ++ [{
          sessionKey := session.stableKey
          topicKey := semanticTopicKey ext topic
          topicLabel := topic
          fingerprint := semanticFingerprint ext session.title session.cwd session.backend
          backendUsed := backend
          modelUsed := model }]
        claimed := Function.update claims.claimed slot true }

def claimCluster (claims : Claims batch) (cluster : Value) : Except BatchError (Claims batch) := do
  let topic ← clusterTopic ext cluster
  let ids ← clusterIds cluster
  ids.foldlM (claimId ext serde batch backend model topic) claims

/-- The array of clusters in a reply. -/
def replyClusters (response : String) : Except BatchError (List Value) :=
  match extractJson response with
  | none => .error (.failed "no JSON object in response")
  | some json =>
    match serde.fromStr json with
    | .error err => .error (.failed s!"invalid JSON: {err}")
    | .ok parsed =>
      match (parsed.get "clusters").bind Value.asArray with
      | none => .error (.failed "missing clusters array")
      | some clusters => .ok clusters

def parseResponse (response : String) : Except BatchError (List SemanticAssignment) := do
  let clusters ← replyClusters serde response
  let claims ← clusters.foldlM (claimCluster ext serde batch backend model) ⟨[], fun _ => false⟩
  if claims.assignments.isEmpty then .error (.failed "no sessions were assigned")
  else .ok claims.assignments

end

end Ork3.Projects
