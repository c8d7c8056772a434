import Ork3.Model.TerminalState

/-!
# The reports a terminal receives

Screen detections, hook reports, session reports, releases and metadata reports, as
`terminal/state.rs` and `terminal/metadata.rs` apply them. An operation takes the instants it reads
from the clock as arguments, `suppressedAt` being the one recorded with a suppressed hook.
-/

namespace Ork3.Terminal

open Ork3.Library

structure AgentMetadataReport where
  source : String
  agentLabel : Option String
  appliesToSource : Option String
  title : Option String
  displayAgent : Option String
  stateLabels : Table String String
  clearTitle : Bool
  clearDisplayAgent : Bool
  clearStateLabels : Bool
  ttl : Option Duration
  seq : Option UInt64

def sessionStartSourceAllowsSessionReplacement (source agentLabel : String)
    (sessionStartSource : Option String) : Bool :=
  sessionStartSource.any fun start =>
    match source, agentLabel with
    | "herdr:claude", "claude" => start ∈ ["clear", "resume", "compact"]
    | "herdr:codex", "codex" => start ∈ ["startup", "clear", "resume", "compact"]
    | "herdr:opencode", "opencode" => start ∈ ["new"]
    | "herdr:pi", "pi" => start ∈ ["new", "resume", "fork"]
    | "herdr:omp", "omp" => start ∈ ["startup", "new", "resume", "fork"]
    | _, _ => false

def sessionStartSourceIsRecognized (sessionStartSource : Option String) : Bool :=
  sessionStartSource.any fun start =>
    start ∈ ["startup", "clear", "resume", "compact", "new", "fork"]

namespace TerminalState

/-! ### Who reports, and for which session -/

def hookAuthorityNotNewerThan (s : TerminalState) (observedAt : Instant) : Bool :=
  s.hookAuthority.all fun authority => authority.reportedAt ≤ observedAt

def hookAuthorityConflictsWithDetectedAgent (s : TerminalState) (detectedAgent : Option Agent) :
    Bool :=
  detectedAgent.any fun detectedAgent => s.hookAuthority.any fun authority =>
    (parseAgentLabel authority.agentLabel).any fun hookAgent => hookAgent ≠ detectedAgent

def shouldIgnoreDetectedStateUnderFullLifecycleHook (s : TerminalState)
    (detectedAgent : Option Agent) (processExited : Bool) : Bool :=
  s.liveFullLifecycleHookAuthority && !processExited &&
    !s.hookAuthorityConflictsWithDetectedAgent detectedAgent

def persistedAgentSessionMatches (s : TerminalState) (source agent : String) : Bool :=
  s.persistedAgentSession.any fun session => session.source = source && session.agent = agent

def knownAgentLabelConflictsWithDetectedAgent (s : TerminalState) (agentLabel : String) : Bool :=
  s.detectedAgent.any fun detectedAgent =>
    (parseAgentLabel agentLabel).any fun hookAgent => hookAgent ≠ detectedAgent

def currentSessionIdentityForPersistence (s : TerminalState) :
    Option (String × String × AgentSessionRefKind × String) :=
  let live := s.hookAuthority.bind fun authority => authority.sessionRef.map fun sessionRef =>
    (authority.source, authority.agentLabel, sessionRef.kind, sessionRef.value)
  live.or (s.persistedAgentSession.map fun session =>
    (session.source, session.agent, session.sessionRef.kind, session.sessionRef.value))

def currentSessionOwnerConflicts (s : TerminalState) (source agentLabel : String) : Bool :=
  s.currentSessionIdentityForPersistence.any fun (currentSource, currentAgent, _, _) =>
    currentSource ≠ source || currentAgent ≠ agentLabel

def conflictingSameOwnerSessionRef (s : TerminalState) (source agentLabel : String)
    (sessionRef : AgentSessionRef) (sessionStartSource : Option String) : Option AgentSessionRef :=
  s.currentSessionIdentityForPersistence.bind
    fun (currentSource, currentAgent, currentKind, currentValue) =>
      if currentSource = source ∧ currentAgent = agentLabel ∧ currentKind = .id ∧
          sessionRef.kind = .id ∧ currentValue ≠ sessionRef.value ∧
          !sessionStartSourceAllowsSessionReplacement source agentLabel sessionStartSource then
        some ⟨currentKind, currentValue⟩
      else
        none

def lifecycleHookReportReplacesPersistedSession (s : TerminalState) (source agentLabel : String)
    (sessionRef : AgentSessionRef) : Bool :=
  s.hookAuthority.isNone && (source, agentLabel) = ("herdr:mastracode", "mastracode") &&
    s.persistedAgentSession.any fun session =>
      session.source = source && session.agent = agentLabel && session.sessionRef.kind = .id &&
        sessionRef.kind = .id && session.sessionRef.value ≠ sessionRef.value

def liveFullLifecycleHookAuthorityConflictsWithSession (s : TerminalState)
    (source agentLabel : String) (sessionRef : Option AgentSessionRef) : Bool :=
  match s.hookAuthority with
  | none => false
  | some authority =>
    if !fullLifecycleHookAuthority authority.source authority.agentLabel then
      false
    else if authority.source ≠ source ∨ authority.agentLabel ≠ agentLabel then
      false
    else
      authority.sessionRef.any fun current => sessionRef.any fun incoming => current ≠ incoming

def sameOwnerFullLifecycleHookAuthoritySessionRef (s : TerminalState) (source agentLabel : String)
    (sessionRef : AgentSessionRef) : Option AgentSessionRef := do
  let authority ← s.hookAuthority
  if !fullLifecycleHookAuthority authority.source authority.agentLabel ||
      authority.source ≠ source || authority.agentLabel ≠ agentLabel then none
  authority.sessionRef.filter (· ≠ sessionRef)

def foregroundAgentConfirmsSessionOwner (s : TerminalState) (source agentLabel : String)
    (sessionRef : AgentSessionRef) : Bool :=
  s.detectedAgent.any fun detectedAgent =>
    parseAgentLabel agentLabel = some detectedAgent && (plan source agentLabel sessionRef).isSome

def foregroundAgentConfirmsDifferentOwnerTakeover (s : TerminalState) (source agentLabel : String)
    (sessionRef : AgentSessionRef) (sessionStartSource : Option String) : Bool :=
  sessionStartSourceIsRecognized sessionStartSource &&
    s.foregroundAgentConfirmsSessionOwner source agentLabel sessionRef

def foregroundAgentConfirmsHookAuthorityTakeover (s : TerminalState) (source agentLabel : String)
    (sessionRef : Option AgentSessionRef) : Bool :=
  sessionRef.any fun sessionRef =>
    s.foregroundAgentConfirmsSessionOwner source agentLabel sessionRef

def acceptHookReport (s : TerminalState) (source : String) (seq : Option UInt64) :
    TerminalState × Bool :=
  match seq with
  | none => (s, (s.hookReportSequences.lookup source).isNone)
  | some seq =>
    if (s.hookReportSequences.lookup source).any fun lastSeq => seq ≤ lastSeq then
      (s, false)
    else
      ({ s with hookReportSequences := s.hookReportSequences.insert source seq }, true)

/-! ### Suppressed hooks and stale sessions -/

def suppressFullLifecycleHookReportWithSessionRef (s : TerminalState) (source agentLabel : String)
    (sessionRef : Option AgentSessionRef) (reason : FullLifecycleHookSuppressionReason)
    (suppressedAt : Instant) : TerminalState :=
  let suppressed := ⟨agentLabel, sessionRef, suppressedAt, reason⟩
  { s with suppressedFullLifecycleHookReports :=
      s.suppressedFullLifecycleHookReports.insert source suppressed }

def suppressCurrentFullLifecycleHookAuthority (s : TerminalState)
    (reason : FullLifecycleHookSuppressionReason) (suppressedAt : Instant) : TerminalState :=
  match s.hookAuthority with
  | none => s
  | some authority =>
    if fullLifecycleHookAuthority authority.source authority.agentLabel then
      s.suppressFullLifecycleHookReportWithSessionRef authority.source authority.agentLabel
        authority.sessionRef reason suppressedAt
    else
      s

def suppressFullLifecycleHookReport (s : TerminalState) (source agentLabel : String)
    (reason : FullLifecycleHookSuppressionReason) (suppressedAt : Instant) : TerminalState :=
  if fullLifecycleHookAuthority source agentLabel then
    s.suppressFullLifecycleHookReportWithSessionRef source agentLabel
      (s.hookAuthority.bind (·.sessionRef)) reason suppressedAt
  else
    s

def fullLifecycleHookReportIsSuppressed (s : TerminalState) (source agentLabel : String)
    (sessionRef : Option AgentSessionRef) : Bool :=
  if !fullLifecycleHookAuthority source agentLabel then
    false
  else
    (s.suppressedFullLifecycleHookReports.lookup source).any fun suppressed =>
      if suppressed.agentLabel ≠ agentLabel then
        false
      else if suppressed.reason = .processExit then
        true
      else
        match suppressed.sessionRef, sessionRef with
        | some suppressedRef, some incomingRef => incomingRef = suppressedRef
        | some _, none => true
        | none, some _ => false
        | none, none => true

def fullLifecycleHookReportHasFreshSessionAfterSuppression (s : TerminalState)
    (source agentLabel : String) (sessionRef : Option AgentSessionRef) : Bool :=
  if !fullLifecycleHookAuthority source agentLabel then
    false
  else
    (s.suppressedFullLifecycleHookReports.lookup source).any fun suppressed =>
      suppressed.agentLabel = agentLabel && suppressed.reason ≠ .processExit &&
        suppressed.sessionRef.any fun suppressedRef => sessionRef.any fun incomingRef =>
          incomingRef ≠ suppressedRef

def fullLifecycleHookReportMatchesStaleSession (s : TerminalState) (source agentLabel : String)
    (sessionRef : Option AgentSessionRef) : Bool :=
  if !fullLifecycleHookAuthority source agentLabel then
    false
  else
    (s.staleFullLifecycleHookSessions.lookup source).any fun staleSessions =>
      sessionRef.any fun incomingRef => staleSessions.any fun stale =>
        stale.agentLabel = agentLabel && incomingRef = stale.sessionRef

def fullLifecycleHookReportHasFreshSessionAfterStaleSession (s : TerminalState)
    (source agentLabel : String) (sessionRef : Option AgentSessionRef) : Bool :=
  if !fullLifecycleHookAuthority source agentLabel then
    false
  else
    (s.staleFullLifecycleHookSessions.lookup source).any fun staleSessions =>
      staleSessions.any (fun stale => stale.agentLabel = agentLabel) &&
        sessionRef.any fun incomingRef => staleSessions.all fun stale =>
          stale.agentLabel ≠ agentLabel || incomingRef ≠ stale.sessionRef

def rememberStaleFullLifecycleHookSession (s : TerminalState) (source agentLabel : String)
    (sessionRef : AgentSessionRef) : TerminalState :=
  let staleSession : StaleFullLifecycleHookSession := ⟨agentLabel, sessionRef⟩
  let staleSessions := (s.staleFullLifecycleHookSessions.lookup source).getD []
  let staleSessions :=
    if staleSessions.contains staleSession then staleSessions else staleSessions ++ [staleSession]
  { s with staleFullLifecycleHookSessions :=
      s.staleFullLifecycleHookSessions.insert source staleSessions }

def forgetStaleFullLifecycleHookSession (s : TerminalState) (source agentLabel : String)
    (sessionRef : AgentSessionRef) : TerminalState :=
  match s.staleFullLifecycleHookSessions.lookup source with
  | none => s
  | some staleSessions =>
    let staleSessions := staleSessions.filter fun stale =>
      stale.agentLabel ≠ agentLabel || stale.sessionRef ≠ sessionRef
    if staleSessions.isEmpty then
      { s with staleFullLifecycleHookSessions := s.staleFullLifecycleHookSessions.erase source }
    else
      { s with staleFullLifecycleHookSessions :=
          s.staleFullLifecycleHookSessions.insert source staleSessions }

/-- A newly detected agent lifts the suppression of its hooks; their sessions become stale. -/
def clearFullLifecycleHookSuppressionForDetectedAgent (s : TerminalState)
    (previousDetectedAgent detectedAgent : Option Agent) : TerminalState :=
  match detectedAgent with
  | none => s
  | some detectedAgent =>
    if previousDetectedAgent = some detectedAgent then
      s
    else
      let detectedLabel := Terminal.agentLabel detectedAgent
      let shouldClear (suppressed : SuppressedFullLifecycleHookReport) : Bool :=
        parseAgentLabel suppressed.agentLabel = some detectedAgent
      let staleSessions := s.suppressedFullLifecycleHookReports.entries.filterMap fun e =>
        if shouldClear e.2 then
          e.2.sessionRef.map fun sessionRef => (e.1, e.2.agentLabel, sessionRef)
        else
          none
      let reports := s.suppressedFullLifecycleHookReports.retain fun _ suppressed =>
        !shouldClear suppressed
      let s := { s with suppressedFullLifecycleHookReports := reports }
      let s := staleSessions.foldl (fun s (source, agentLabel, sessionRef) =>
        s.rememberStaleFullLifecycleHookSession source agentLabel sessionRef) s
      let sequences := s.hookReportSequences.retain fun source _ =>
        !fullLifecycleHookAuthority source detectedLabel
      { s with hookReportSequences := sequences }

def detectedStateObservedBeforeReleaseSuppression (s : TerminalState)
    (detectedAgent : Option Agent) (observedAt : Instant) : Bool :=
  detectedAgent.any fun detectedAgent =>
    s.suppressedFullLifecycleHookReports.values.any fun suppressed =>
      parseAgentLabel suppressed.agentLabel = some detectedAgent &&
        observedAt ≤ suppressed.observedAt

end TerminalState

end Ork3.Terminal
