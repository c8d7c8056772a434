import Ork3.Library.Table
import Ork3.Model.AgentIdentity

/-!
# The state of a terminal

The evidence about the agent of a terminal (`terminal/state.rs`), the metadata shown for it
(`terminal/metadata.rs`) and the arbitration between them.
-/

namespace Ork3.Terminal

open Ork3.Library

/-- Nanoseconds of the monotonic clock. -/
abbrev Instant := Nat

abbrev Duration := Nat

/-- An instant holds its seconds in 64 signed bits. -/
def Instant.checkedAdd (instant : Instant) (d : Duration) : Option Instant :=
  if (instant + d) / 10 ^ 9 < 2 ^ 63 then some (instant + d) else none

structure HookAuthority where
  source : String
  agentLabel : String
  state : AgentState
  message : Option String
  reportedAt : Instant
  sessionRef : Option AgentSessionRef
  deriving DecidableEq

inductive FullLifecycleHookSuppressionReason
  | hookClear | processExit
  deriving DecidableEq, Repr

structure SuppressedFullLifecycleHookReport where
  agentLabel : String
  sessionRef : Option AgentSessionRef
  observedAt : Instant
  reason : FullLifecycleHookSuppressionReason
  deriving DecidableEq

structure StaleFullLifecycleHookSession where
  agentLabel : String
  sessionRef : AgentSessionRef
  deriving DecidableEq

structure AgentMetadata where
  source : String
  agentLabel : Option String
  appliesToSource : Option String
  title : Option String
  displayAgent : Option String
  stateLabels : Table String String
  reportedAt : Instant
  titleReportedAt : Option Instant
  displayAgentReportedAt : Option Instant
  stateLabelReportedAt : Table String Instant
  ttl : Option Duration
  expiryEventPending : Bool
  deriving DecidableEq

/-- What is shown for a terminal. Label tables are compared by their contents. -/
structure EffectivePresentation where
  title : Option String
  displayAgent : Option String
  stateLabels : Finmap fun _ : String => String
  deriving DecidableEq

structure EffectiveStateChange where
  previousAgentLabel : Option String
  previousKnownAgent : Option Agent
  previousState : AgentState
  previousPresentation : EffectivePresentation
  agentLabel : Option String
  knownAgent : Option Agent
  state : AgentState
  presentation : EffectivePresentation
  deriving DecidableEq

structure TerminalStateMutation where
  effectiveStateChange : Option EffectiveStateChange
  sessionRefChanged : Bool
  deriving DecidableEq

structure TerminalState where
  detectedAgent : Option Agent
  fallbackState : AgentState
  fallbackVisibleBlocker : Bool
  fallbackObservedAt : Option Instant
  hookAuthority : Option HookAuthority
  agentMetadata : Table String AgentMetadata
  persistedAgentSession : Option PersistedAgentSession
  agentName : Option String
  hookReportSequences : Table String UInt64
  suppressedFullLifecycleHookReports : Table String SuppressedFullLifecycleHookReport
  staleFullLifecycleHookSessions : Table String (List StaleFullLifecycleHookSession)
  metadataReportSequences : Table String UInt64
  metadataTokenSequenceSources : Finset String
  state : AgentState
  lastAgentStateChangeSeq : Option UInt64
  launchArgv : Option (List String)
  respawnShellOnExit : Bool
  recentAgentProcessExitAt : Option Instant
  pendingAgentResumePlan : Option AgentResumePlan
  deriving DecidableEq

def agentMetadataExpiry (metadata : AgentMetadata) : Option Instant :=
  metadata.ttl.map fun ttl => (Instant.checkedAdd metadata.reportedAt ttl).getD metadata.reportedAt

def agentMetadataIsExpired (metadata : AgentMetadata) (now : Instant) : Bool :=
  (agentMetadataExpiry metadata).any fun deadline => deadline ≤ now

def AgentMetadata.hasFields (metadata : AgentMetadata) : Bool :=
  metadata.title.isSome || metadata.displayAgent.isSome || !metadata.stateLabels.entries.isEmpty

/-- The last of the entries with the greatest reporting time, `none` being the least. -/
def maxByReportedAt (reportedAt : AgentMetadata → Option Instant) (l : List AgentMetadata) :
    Option AgentMetadata :=
  l.reverse.argmax fun metadata => (reportedAt metadata).elim 0 (· + 1)

/-- The sequence numbers of a source only grow. -/
def sequenceIsFresh (sequences : Table String UInt64) (source : String) (seq : Option UInt64) :
    Bool :=
  seq.all fun seq => (sequences.lookup source).all fun last => last < seq

def maxSequenceSources : Nat := 32

namespace TerminalState

def new : TerminalState where
  detectedAgent := none
  fallbackState := .unknown
  fallbackVisibleBlocker := false
  fallbackObservedAt := none
  hookAuthority := none
  agentMetadata := ∅
  persistedAgentSession := none
  agentName := none
  hookReportSequences := ∅
  suppressedFullLifecycleHookReports := ∅
  staleFullLifecycleHookSessions := ∅
  metadataReportSequences := ∅
  metadataTokenSequenceSources := ∅
  state := .unknown
  lastAgentStateChangeSeq := none
  launchArgv := none
  respawnShellOnExit := false
  recentAgentProcessExitAt := none
  pendingAgentResumePlan := none

/-! ### The agent in charge -/

def effectiveAgentLabel (s : TerminalState) : Option String :=
  (s.hookAuthority.map (·.agentLabel)).or (s.detectedAgent.map Terminal.agentLabel)

def effectiveKnownAgent (s : TerminalState) : Option Agent :=
  match s.hookAuthority with
  | some authority => parseAgentLabel authority.agentLabel
  | none => s.detectedAgent

def liveFullLifecycleHookAuthority (s : TerminalState) : Bool :=
  s.hookAuthority.any fun authority =>
    fullLifecycleHookAuthority authority.source authority.agentLabel

def fallbackNotOlderThanHook (s : TerminalState) : Bool :=
  s.hookAuthority.all fun authority =>
    s.fallbackObservedAt.any fun observedAt => authority.reportedAt ≤ observedAt

def visibleBlockerOverridesHook (s : TerminalState) : Bool :=
  if s.liveFullLifecycleHookAuthority then
    false
  else
    s.fallbackVisibleBlocker && s.fallbackNotOlderThanHook &&
      s.hookAuthority.any fun authority =>
        authority.state ≠ .blocked && parseAgentLabel authority.agentLabel = s.detectedAgent

/-! ### Metadata -/

def metadataGuardsMatch (s : TerminalState) (agentLabel appliesToSource : Option String) : Bool :=
  if agentLabel.any fun agent => s.effectiveAgentLabel ≠ some agent then
    false
  else
    !appliesToSource.any fun source =>
      s.hookAuthority.all fun authority => authority.source ≠ source

def agentMetadataMatchesGuards (s : TerminalState) (metadata : AgentMetadata) : Bool :=
  s.metadataGuardsMatch metadata.agentLabel metadata.appliesToSource

def agentMetadataIsValid (s : TerminalState) (now : Instant) (enforceTtl : Bool)
    (metadata : AgentMetadata) : Bool :=
  if !metadata.hasFields then
    false
  else if enforceTtl && agentMetadataIsExpired metadata now then
    false
  else
    s.agentMetadataMatchesGuards metadata

def agentMetadataIsVisibleIgnoringTtl (s : TerminalState) (metadata : AgentMetadata) : Bool :=
  metadata.hasFields && s.agentMetadataMatchesGuards metadata

def validAgentMetadata (s : TerminalState) (now : Instant) (enforceTtl : Bool) :
    List AgentMetadata :=
  s.agentMetadata.values.filter (s.agentMetadataIsValid now enforceTtl)

def newestMetadataTitle (s : TerminalState) (now : Instant) (enforceTtl : Bool) : Option String :=
  (maxByReportedAt (·.titleReportedAt)
    ((s.validAgentMetadata now enforceTtl).filter (·.title.isSome))).bind (·.title)

def newestMetadataDisplayAgent (s : TerminalState) (now : Instant) (enforceTtl : Bool) :
    Option String :=
  (maxByReportedAt (·.displayAgentReportedAt)
    ((s.validAgentMetadata now enforceTtl).filter (·.displayAgent.isSome))).bind (·.displayAgent)

def effectiveMetadataStateLabels (s : TerminalState) (now : Instant) (enforceTtl : Bool) :
    Table String String :=
  let labels := (s.validAgentMetadata now enforceTtl).flatMap fun metadata =>
    metadata.stateLabels.entries.filterMap fun e =>
      (metadata.stateLabelReportedAt.lookup e.1).map fun reportedAt => (reportedAt, e.1, e.2)
  Table.collect ((labels.insertionSort fun a b => a.1 ≤ b.1).map (·.2))

def effectivePresentationForStateAtWithTtl (s : TerminalState) (_state : AgentState)
    (now : Instant) (enforceTtl : Bool) : EffectivePresentation where
  title := s.newestMetadataTitle now enforceTtl
  displayAgent := s.newestMetadataDisplayAgent now enforceTtl
  stateLabels := (s.effectiveMetadataStateLabels now enforceTtl).toFinmap

def effectivePresentationForStateAt (s : TerminalState) (state : AgentState) (now : Instant) :
    EffectivePresentation :=
  s.effectivePresentationForStateAtWithTtl state now true

def effectivePresentationForStateAtIgnoringTtl (s : TerminalState) (state : AgentState)
    (now : Instant) : EffectivePresentation :=
  s.effectivePresentationForStateAtWithTtl state now false

def clearExpiryPendingForHiddenMetadata (s : TerminalState) : TerminalState :=
  let hiddenSources := (s.agentMetadata.entries.filter fun e =>
    e.2.expiryEventPending && !s.agentMetadataIsVisibleIgnoringTtl e.2).map (·.1)
  let cleared := hiddenSources.foldl (fun t source => t.modify source fun metadata =>
    { metadata with expiryEventPending := false }) s.agentMetadata
  { s with agentMetadata := cleared }

/-! ### The arbitration -/

/-- The state the evidence stands for: the screen's blocker where it overrides the hook, otherwise
the hook, otherwise the screen. -/
def arbitration (s : TerminalState) : AgentState :=
  if s.visibleBlockerOverridesHook then
    .blocked
  else
    (s.hookAuthority.map (·.state)).getD s.fallbackState

/-- What an operation reads before it changes anything. -/
structure Previous where
  agentLabel : Option String
  knownAgent : Option Agent
  state : AgentState
  presentation : EffectivePresentation

def previousAt (s : TerminalState) (now : Instant) : Previous where
  agentLabel := s.effectiveAgentLabel
  knownAgent := s.effectiveKnownAgent
  state := s.state
  presentation := s.effectivePresentationForStateAt s.state now

/-- `state` is written only when something visible changed. -/
def recomputeEffectiveState (s : TerminalState) (previous : Previous) (now : Instant) :
    TerminalState × Option EffectiveStateChange :=
  let state := s.arbitration
  let presentation := s.effectivePresentationForStateAt state now
  let agentLabel := s.effectiveAgentLabel
  let knownAgent := s.effectiveKnownAgent
  let s := s.clearExpiryPendingForHiddenMetadata
  if previous.agentLabel = agentLabel ∧ previous.state = state ∧
      previous.presentation = presentation then
    (s, none)
  else
    ({ s with state := state },
      some {
        previousAgentLabel := previous.agentLabel
        previousKnownAgent := previous.knownAgent
        previousState := previous.state
        previousPresentation := previous.presentation
        agentLabel := agentLabel
        knownAgent := knownAgent
        state := state
        presentation := presentation })

end TerminalState

end Ork3.Terminal
