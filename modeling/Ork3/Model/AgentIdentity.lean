import Ork3.Library.Text

/-!
# Agents, their labels and their sessions

The agent names of `detect/mod.rs` and the session references of `agent_resume.rs`.
-/

namespace Ork3.Terminal

open Ork3.Library

inductive AgentState
  | idle | working | blocked | unknown
  deriving DecidableEq, Repr

inductive Agent
  | pi | claude | codex | gemini | cursor | devin | antigravity | cline | omp | mastracode
  | openCode | githubCopilot | kimi | kiro | droid | amp | grok | hermes | kilo | qodercli | maki
  deriving DecidableEq, Repr

def agentLabel : Agent → String
  | .pi => "pi"
  | .claude => "claude"
  | .codex => "codex"
  | .gemini => "gemini"
  | .cursor => "cursor"
  | .devin => "devin"
  | .antigravity => "agy"
  | .cline => "cline"
  | .omp => "omp"
  | .mastracode => "mastracode"
  | .openCode => "opencode"
  | .githubCopilot => "copilot"
  | .kimi => "kimi"
  | .kiro => "kiro"
  | .droid => "droid"
  | .amp => "amp"
  | .grok => "grok"
  | .hermes => "hermes"
  | .kilo => "kilo"
  | .qodercli => "qodercli"
  | .maki => "maki"

def agentNames : List (String × Agent) :=
  [("pi", .pi), ("claude", .claude), ("claude-code", .claude), ("codex", .codex),
    ("gemini", .gemini), ("cursor", .cursor), ("cursor-agent", .cursor), ("devin", .devin),
    ("devin-cli", .devin), ("devin cli", .devin), ("agy", .antigravity),
    ("antigravity", .antigravity), ("antigravity-cli", .antigravity), ("cline", .cline),
    ("omp", .omp), ("mastracode", .mastracode), ("mastra-code", .mastracode),
    ("mastra code", .mastracode), ("opencode", .openCode), ("open-code", .openCode),
    ("copilot", .githubCopilot), ("github-copilot", .githubCopilot), ("ghcs", .githubCopilot),
    ("kimi", .kimi), ("kimi-code", .kimi), ("kimi code", .kimi), ("kiro", .kiro),
    ("kiro-cli", .kiro), ("droid", .droid), ("amp", .amp), ("amp-local", .amp), ("grok", .grok),
    ("grok-build", .grok), ("hermes", .hermes), ("hermes-agent", .hermes), ("kilo", .kilo),
    ("kilo-code", .kilo), ("kilo code", .kilo), ("qodercli", .qodercli), ("qoderclicn", .qodercli),
    ("qoder", .qodercli), ("qodercn", .qodercli), ("maki", .maki)]

def lookupAgent (name : String) : Option Agent :=
  agentNames.lookup name

def parseCanonicalAgentLabel (label : String) : Option Agent := do
  let agent ← lookupAgent label
  if agentLabel agent = label then some agent else none

/-- The characters `str::trim` removes. -/
def isWhitespace (c : Char) : Bool :=
  let n := c.toNat
  (9 ≤ n && n ≤ 13) || n = 0x20 || n = 0x85 || n = 0xa0 || n = 0x1680 ||
    (0x2000 ≤ n && n ≤ 0x200a) || n = 0x2028 || n = 0x2029 || n = 0x202f || n = 0x205f ||
    n = 0x3000

def trim (s : List Char) : List Char :=
  ((s.dropWhile isWhitespace).reverse.dropWhile isWhitespace).reverse

/-- Lowercasing as far as a name of ASCII characters can tell: only the ASCII capitals and the
Kelvin sign have an ASCII lowercase. -/
def lowercaseChar (c : Char) : Char :=
  if c.toNat = 0x212a then 'k' else c.toLower

def dropFirstSuffix : List (List Char) → List Char → List Char
  | [], name => name
  | suffix :: suffixes, name =>
    match stripSuffix suffix name with
    | some rest => rest
    | none => dropFirstSuffix suffixes name

def normalizedAgentLookupName (name : String) : String :=
  String.ofList (dropFirstSuffix
    [".exe".toList, ".cmd".toList, ".bat".toList, ".ps1".toList, ".js".toList]
    ((trim name.toList).map lowercaseChar))

def parseAgentLabel (agent : String) : Option Agent :=
  let name := normalizedAgentLookupName agent
  (parseCanonicalAgentLabel name).or (lookupAgent name)

/-- The sources whose hooks report the whole life of an agent. -/
def fullLifecycleHookAuthority (source agentLabel : String) : Bool :=
  decide ((source, agentLabel) ∈
    [("herdr:pi", "pi"), ("herdr:omp", "omp"), ("herdr:mastracode", "mastracode"),
      ("herdr:hermes", "hermes"), ("herdr:opencode", "opencode"), ("herdr:kilo", "kilo"),
      ("herdr:kimi", "kimi")])

/-! ### Sessions -/

inductive AgentSessionRefKind
  | id | path
  deriving DecidableEq, Repr

structure AgentSessionRef where
  kind : AgentSessionRefKind
  value : String
  deriving DecidableEq, Repr

def maxSessionIdLen : Nat := 512

def maxSessionPathLen : Nat := 4096

def validSessionId (value : String) : Bool :=
  !value.isEmpty && decide (value.utf8ByteSize ≤ maxSessionIdLen) && !value.toList.any isControl

def validSessionPath (value : String) : Bool :=
  !value.isEmpty && decide (value.utf8ByteSize ≤ maxSessionPathLen) &&
    !value.toList.any isControl && value.toList.head? == some '/'

def AgentSessionRef.id (value : String) : Option AgentSessionRef :=
  if validSessionId value then some ⟨.id, value⟩ else none

def AgentSessionRef.path (value : String) : Option AgentSessionRef :=
  if validSessionPath value then some ⟨.path, value⟩ else none

structure AgentResumePlan where
  agent : String
  argv : List String
  dedupeKey : String
  deriving DecidableEq, Repr

structure PersistedAgentSession where
  source : String
  agent : String
  sessionRef : AgentSessionRef
  deriving DecidableEq, Repr

def isOfficialAgentSource (source agent : String) : Bool :=
  decide ((source, agent) ∈
    [("herdr:claude", "claude"), ("herdr:codex", "codex"), ("herdr:copilot", "copilot"),
      ("herdr:devin", "devin"), ("herdr:droid", "droid"), ("herdr:kimi", "kimi"),
      ("herdr:omp", "omp"), ("herdr:mastracode", "mastracode"), ("herdr:pi", "pi"),
      ("herdr:hermes", "hermes"), ("herdr:opencode", "opencode"), ("herdr:qodercli", "qodercli"),
      ("herdr:kilo", "kilo"), ("herdr:cursor", "cursor")])

def sessionRefFromSnapshot (source agent : String) (kind : AgentSessionRefKind) (value : String) :
    Option PersistedAgentSession := do
  if !isOfficialAgentSource source agent then none
  let sessionRef ← match kind with
    | .path => if agent = "pi" ∨ agent = "omp" then AgentSessionRef.path value else none
    | .id => AgentSessionRef.id value
  return ⟨source, agent, sessionRef⟩

def dedupeKey (source agent : String) (sessionRef : AgentSessionRef) : String :=
  let kind := match sessionRef.kind with
    | .id => "Id"
    | .path => "Path"
  String.intercalate (String.singleton (Char.ofNat 0)) [source, agent, kind, sessionRef.value]

/-- The command line that resumes a session, for the agents that have one. -/
def resumeArgv (source agent : String) (sessionRef : AgentSessionRef) : Option (List String) :=
  let value := sessionRef.value
  match source, agent, sessionRef.kind with
  | "herdr:claude", "claude", .id => some ["claude", "--resume", value]
  | "herdr:codex", "codex", .id => some ["codex", "resume", value]
  | "herdr:copilot", "copilot", .id => some ["copilot", "--resume=" ++ value]
  | "herdr:devin", "devin", .id => some ["devin", "--resume", value]
  | "herdr:droid", "droid", .id => some ["droid", "--resume", value]
  | "herdr:kimi", "kimi", .id => some ["kimi", "--session", value]
  | "herdr:mastracode", "mastracode", .id => some ["mastracode", "--thread", value]
  | "herdr:pi", "pi", _ => some ["pi", "--session", value]
  | "herdr:omp", "omp", _ => some ["omp", "--resume=" ++ value]
  | "herdr:hermes", "hermes", .id => some ["hermes", "--resume", value]
  | "herdr:opencode", "opencode", .id => some ["opencode", "--session", value]
  | "herdr:qodercli", "qodercli", .id => some ["qodercli", "--resume", value]
  | "herdr:kilo", "kilo", .id => some ["kilo", "--session", value]
  | "herdr:cursor", "cursor", .id => some ["cursor-agent", "--resume", value]
  | _, _, _ => none

def plan (source agent : String) (sessionRef : AgentSessionRef) : Option AgentResumePlan := do
  if !isOfficialAgentSource source agent then none
  let argv ← resumeArgv source agent sessionRef
  return ⟨agent, argv, dedupeKey source agent sessionRef⟩

example : parseAgentLabel " Claude-Code.EXE " = some .claude := by decide +kernel

end Ork3.Terminal
