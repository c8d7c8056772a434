import Ork3.Library.Text
import Ork3.Model.AgentIdentity

/-!
# Sessions, projects and candidates

The values the project catalog stores and receives (`projects/domain.rs`).
-/

namespace Ork3.Projects

open Ork3.Library

def utf8Bytes (s : String) : List UInt8 :=
  s.toUTF8.data.toList

/-- A path as its bytes. -/
structure PathBuf where
  bytes : List UInt8
  deriving DecidableEq

/-- What two paths are compared by: whether they start at the root, and their names without empty
ones and without `.` behind the start. -/
def PathBuf.components (path : PathBuf) : Bool × List (List UInt8) :=
  let names := path.bytes.splitOn 0x2f
  let hasRoot := path.bytes.head? = some 0x2f
  let normal := names.filter fun name => name ≠ [] && name ≠ [0x2e]
  (hasRoot, if !hasRoot && names.head? = some [0x2e] then [0x2e] :: normal else normal)

def PathBuf.toStr (path : PathBuf) : Option String :=
  (fromUtf8 path.bytes).toOption.map String.ofList

def PathBuf.toStringLossy (path : PathBuf) : String :=
  String.ofList (fromUtf8Lossy path.bytes)

def PathBuf.ofStr (s : String) : PathBuf :=
  ⟨utf8Bytes s⟩

/-- The number that the 64-bit pattern of a natural number stands for. -/
def asI64 (n : Nat) : Int :=
  Int.bmod n (2 ^ 64)

/-! ### Sessions -/

inductive SessionRefKind
  | id | path
  deriving DecidableEq, Repr

def SessionRefKind.asStr : SessionRefKind → String
  | .id => "id"
  | .path => "path"

structure SessionIdentity where
  backend : String
  refKind : SessionRefKind
  canonicalRefValue : String
  stableKey : String
  deriving DecidableEq

inductive SourcePriority
  | transcriptFile | primaryIndex | runtimeReport
  deriving DecidableEq, Repr

def SourcePriority.asI64 : SourcePriority → Int
  | .transcriptFile => 1
  | .primaryIndex => 2
  | .runtimeReport => 3

structure CandidateField (α : Type) where
  value : α
  observedAt : Int
  priority : SourcePriority
  sourceKey : String
  deriving DecidableEq

def CandidateField.outranks {α : Type} (field : CandidateField α) (observedAt priority : Int)
    (sourceKey : String) : Bool :=
  field.observedAt > observedAt ||
    (field.observedAt = observedAt && (field.priority.asI64 > priority ||
      (field.priority.asI64 = priority && field.sourceKey < sourceKey)))

structure RuntimeMapping where
  workspaceId : String
  paneId : String
  generation : UInt64
  deriving DecidableEq

structure SessionAliasCandidate where
  identity : SessionIdentity
  evidence : String
  deriving DecidableEq

structure SessionWeight where
  turns : Nat
  chars : Nat
  known : Bool
  deriving DecidableEq

def minSubstantiveTurns : Int := 4

def minSubstantiveChars : Int := 80

def minAnyChars : Int := 24

inductive SessionClass
  | interactive | automation | ephemeral
  deriving DecidableEq, Repr

structure SessionCandidate where
  identity : SessionIdentity
  title : Option (CandidateField String)
  cwd : Option (CandidateField PathBuf)
  transcriptRef : Option (CandidateField String)
  firstActivityAt : Int
  lastActivityAt : Int
  adapter : String
  rootKey : String
  sourceKey : String
  observedAt : Int
  aliases : List SessionAliasCandidate
  runtime : Option RuntimeMapping
  weight : SessionWeight
  sessionClass : Option SessionClass
  deriving DecidableEq

def titleCaseBackend (backend : String) : String :=
  match backend.toList with
  | [] => "Agent"
  | first :: rest => String.ofList (first.toUpper :: rest)

/-- A session without a title is named after its backend and the front of its key. -/
def SessionCandidate.fallbackTitle (candidate : SessionCandidate) : String :=
  match candidate.title with
  | some field => field.value
  | none =>
    titleCaseBackend candidate.identity.backend ++ " session · " ++
      String.ofList (candidate.identity.stableKey.toList.take 8)

/-! ### Runtime reports -/

structure RuntimeCandidateInput where
  identity : SessionIdentity
  cwd : PathBuf
  workspaceId : String
  paneId : String
  generation : UInt64
  observedAt : Int

/-- A report of a running session knows its directory, but neither a title nor a transcript. -/
def candidateFromReport (input : RuntimeCandidateInput) : SessionCandidate :=
  let sourceKey := "runtime:" ++ input.workspaceId ++ ":" ++ input.paneId
  { identity := input.identity
    title := none
    cwd := some ⟨input.cwd, input.observedAt, .runtimeReport, sourceKey⟩
    transcriptRef := none
    firstActivityAt := input.observedAt
    lastActivityAt := input.observedAt
    adapter := "runtime"
    rootKey := "runtime"
    sourceKey := sourceKey
    observedAt := input.observedAt
    aliases := []
    runtime := some ⟨input.workspaceId, input.paneId, input.generation⟩
    weight := ⟨0, 0, false⟩
    sessionClass := none }

/-! ### Projects -/

inductive ProjectKind
  | gitCommonDir | cwd | semantic | unclassified
  deriving DecidableEq, Repr

def ProjectKind.asStr : ProjectKind → String
  | .gitCommonDir => "git-common-dir"
  | .cwd => "cwd"
  | .semantic => "semantic"
  | .unclassified => "unclassified"

structure ProjectClassification where
  canonicalKey : String
  kind : ProjectKind
  canonicalPath : String
  displayName : String
  evidence : String
  deriving DecidableEq

structure SemanticAssignment where
  sessionKey : String
  topicKey : String
  topicLabel : String
  fingerprint : String
  backendUsed : String
  modelUsed : Option String
  deriving DecidableEq

/-! ### What the catalog takes from elsewhere -/

/-- The digest of a domain and fields, the lowercase mapping and the classifier of directories,
which reads the file system and is fixed for a run; equal paths are classified alike. -/
structure External where
  versionedKey : List UInt8 → List (List UInt8) → String
  toLowercase : String → String
  classify : PathBuf → ProjectClassification
  classify_congr : ∀ p q : PathBuf, p.components = q.components → classify p = classify q

section
variable (ext : External)

def SessionIdentity.fromCanonical (backend : String) (refKind : SessionRefKind)
    (canonicalRefValue : String) : SessionIdentity where
  backend := backend
  refKind := refKind
  canonicalRefValue := canonicalRefValue
  stableKey := ext.versionedKey (utf8Bytes "herdr-projects-session-v1" ++ [0])
    [utf8Bytes backend, utf8Bytes refKind.asStr, utf8Bytes canonicalRefValue]

def ProjectClassification.new (kind : ProjectKind)
    (canonicalPath displayName evidence : String) : ProjectClassification where
  canonicalKey := ext.versionedKey (utf8Bytes "herdr-projects-project-v1" ++ [0])
    [utf8Bytes kind.asStr, utf8Bytes canonicalPath]
  kind := kind
  canonicalPath := canonicalPath
  displayName := displayName
  evidence := evidence

def ProjectClassification.unclassified : ProjectClassification :=
  .new ext .unclassified "unclassified" "Unclassified" "cwd unavailable"

/-- `classifier::classify`: a missing directory is unclassified. -/
def classify : Option PathBuf → ProjectClassification
  | none => .unclassified ext
  | some cwd => ext.classify cwd

def semanticFingerprint (title : String) (cwd : Option String) (backend : String) : String :=
  ext.versionedKey (utf8Bytes "ork3-semantic-v1" ++ [0])
    [utf8Bytes title, utf8Bytes (cwd.getD ""), utf8Bytes backend]

/-- The words of a title, separated by single blanks and in lowercase. -/
def normalizeSessionTitle (title : String) : String :=
  let words := (title.toList.splitOnP Terminal.isWhitespace).filter (· ≠ [])
  ext.toLowercase (String.ofList ([' '].intercalate words))

end

end Ork3.Projects
