import Ork3.Model.TerminalReports

/-!
# The operations on a terminal

Each operation returns the new state and, unless it rejects its report, what changed.
-/

namespace Ork3.Terminal

open Ork3.Library

namespace TerminalState

/-! ### Screen detections -/

/-- The end of the agent's process ends its hook authority and its persisted session. -/
def clearExitedAgent (s : TerminalState) (agent : Option Agent) (processExited : Bool)
    (now suppressedAt : Instant) : TerminalState :=
  let s :=
    if processExited && s.hookAuthorityNotNewerThan now &&
        s.hookAuthority.any fun authority => parseAgentLabel authority.agentLabel = agent then
      let clearedSource := s.hookAuthority.map (·.source)
      let s := s.suppressCurrentFullLifecycleHookAuthority .processExit suppressedAt
      let sequences := clearedSource.elim s.hookReportSequences s.hookReportSequences.erase
      { s with hookReportSequences := sequences, hookAuthority := none }
    else
      s
  if processExited &&
      s.persistedAgentSession.any fun session => parseAgentLabel session.agent = agent then
    { s with persistedAgentSession := none }
  else
    s

/-- A detection of another agent ends the hook authority; its session stays persisted. -/
def clearReplacedAgent (s : TerminalState) (previousDetectedAgent agent : Option Agent)
    (now suppressedAt : Instant) : TerminalState :=
  if s.hookAuthorityNotNewerThan now &&
      (s.hookAuthorityConflictsWithDetectedAgent agent ||
        (previousDetectedAgent.isSome && agent ≠ previousDetectedAgent &&
          s.hookAuthority.any fun authority =>
            parseAgentLabel authority.agentLabel = previousDetectedAgent)) then
    let durableSession := s.hookAuthority.bind fun authority => authority.sessionRef.map
      fun sessionRef => PersistedAgentSession.mk authority.source authority.agentLabel sessionRef
    let s := s.suppressCurrentFullLifecycleHookAuthority .hookClear suppressedAt
    { s with hookAuthority := none, persistedAgentSession := durableSession }
  else
    s

/-- The new evidence of a detection, before the arbitration. -/
def noteDetectedState (s : TerminalState) (agent : Option Agent) (fallbackState : AgentState)
    (visibleBlocker processExited : Bool) (now suppressedAt : Instant) : TerminalState :=
  let previousDetectedAgent := s.detectedAgent
  let s := { s with detectedAgent := agent }
  let s :=
    if !processExited then
      s.clearFullLifecycleHookSuppressionForDetectedAgent previousDetectedAgent agent
    else
      s
  let s :=
    { s with
      fallbackState := fallbackState
      fallbackVisibleBlocker := visibleBlocker && fallbackState = AgentState.blocked
      fallbackObservedAt := some now }
  let s :=
    if processExited && agent.isSome then
      { s with recentAgentProcessExitAt := some now }
    else if agent.isSome then
      { s with recentAgentProcessExitAt := none }
    else
      s
  let s := s.clearExitedAgent agent processExited now suppressedAt
  s.clearReplacedAgent previousDetectedAgent agent now suppressedAt

def setDetectedStateWithScreenSignalsAt (s : TerminalState) (agent : Option Agent)
    (fallbackState : AgentState) (visibleBlocker _visibleIdle _visibleWorking processExited : Bool)
    (now suppressedAt : Instant) : TerminalState × TerminalStateMutation :=
  let previous := s.previousAt now
  let previousSession := s.currentSessionIdentityForPersistence
  let s :=
    if s.shouldIgnoreDetectedStateUnderFullLifecycleHook agent processExited then
      if (s.hookAuthority.bind fun authority => parseAgentLabel authority.agentLabel) = agent then
        { s with detectedAgent := agent }
      else
        s
    else if !processExited && s.detectedStateObservedBeforeReleaseSuppression agent now then
      s
    else
      s.noteDetectedState agent fallbackState visibleBlocker processExited now suppressedAt
  let (s, change) := s.recomputeEffectiveState previous now
  (s, ⟨change, previousSession ≠ s.currentSessionIdentityForPersistence⟩)

/-- The end of an operation that turned `s` into `noted`. -/
def reported (s noted : TerminalState) (now : Instant) :
    TerminalState × Option TerminalStateMutation :=
  let previousSession := s.currentSessionIdentityForPersistence
  let currentSession := noted.currentSessionIdentityForPersistence
  let (s, change) := noted.recomputeEffectiveState (s.previousAt now) now
  (s, some ⟨change, previousSession ≠ currentSession⟩)

/-- An operation that goes on only where its sequence number is accepted. -/
def onAcceptedHookReport (s : TerminalState) (source : String) (seq : Option UInt64)
    (operation : TerminalState → TerminalState × Option TerminalStateMutation) :
    TerminalState × Option TerminalStateMutation :=
  let (s, accepted) := s.acceptHookReport source seq
  if !accepted then (s, none) else operation s

/-! ### Hook reports -/

/-- The session a hook report is recorded with. -/
def hookReportSessionRef (s : TerminalState) (source agentLabel : String)
    (sessionRef : Option AgentSessionRef) : Option AgentSessionRef :=
  sessionRef.map fun sessionRef =>
    if s.lifecycleHookReportReplacesPersistedSession source agentLabel sessionRef then
      sessionRef
    else
      (s.conflictingSameOwnerSessionRef source agentLabel sessionRef none).getD sessionRef

/-- A report with a session makes the suppressed session of its source stale. -/
def staleSuppressedSession (s : TerminalState) (source : String) : TerminalState :=
  match s.suppressedFullLifecycleHookReports.lookup source with
  | none => s
  | some suppressed =>
    let reports := s.suppressedFullLifecycleHookReports.erase source
    let s := { s with suppressedFullLifecycleHookReports := reports }
    match suppressed.sessionRef with
    | none => s
    | some suppressedRef =>
      s.rememberStaleFullLifecycleHookSession source suppressed.agentLabel suppressedRef

/-- The new evidence of an accepted hook report, before the arbitration. -/
def noteHookAuthority (s : TerminalState) (authority : HookAuthority)
    (foregroundTakeoverAllowed : Bool) (suppressedAt : Instant) : TerminalState :=
  let s :=
    if foregroundTakeoverAllowed then
      s.suppressCurrentFullLifecycleHookAuthority .hookClear suppressedAt
    else
      s
  let s :=
    if authority.sessionRef.isSome then s.staleSuppressedSession authority.source else s
  { s with persistedAgentSession := none, hookAuthority := some authority }

def setHookAuthorityAt (s : TerminalState) (source agentLabel : String) (state : AgentState)
    (message : Option String) (sessionRef : Option AgentSessionRef) (seq : Option UInt64)
    (now suppressedAt : Instant) : TerminalState × Option TerminalStateMutation :=
  if s.fullLifecycleHookReportIsSuppressed source agentLabel sessionRef then
    (s, none)
  else if s.fullLifecycleHookReportMatchesStaleSession source agentLabel sessionRef then
    (s, none)
  else
  let reanchorSequence :=
    s.fullLifecycleHookReportHasFreshSessionAfterSuppression source agentLabel sessionRef ||
      s.fullLifecycleHookReportHasFreshSessionAfterStaleSession source agentLabel sessionRef
  if s.knownAgentLabelConflictsWithDetectedAgent agentLabel then
    (s, none)
  else
  let ownerConflicts := s.currentSessionOwnerConflicts source agentLabel
  let foregroundTakeoverAllowed := ownerConflicts &&
    s.foregroundAgentConfirmsHookAuthorityTakeover source agentLabel sessionRef
  if ownerConflicts && !foregroundTakeoverAllowed then
    (s, none)
  else
  let sessionRef := s.hookReportSessionRef source agentLabel sessionRef
  if s.liveFullLifecycleHookAuthorityConflictsWithSession source agentLabel sessionRef then
    (s, none)
  else
  let s :=
    if reanchorSequence then
      { s with hookReportSequences := s.hookReportSequences.erase source }
    else
      s
  s.onAcceptedHookReport source seq fun s =>
    let authority := ⟨source, agentLabel, state, message, now, sessionRef⟩
    s.reported (s.noteHookAuthority authority foregroundTakeoverAllowed suppressedAt) now

/-- The evidence without its hook authority and without a persisted session. -/
def noteClearedHookAuthority (s : TerminalState) (suppressedAt : Instant) : TerminalState :=
  let s := s.suppressCurrentFullLifecycleHookAuthority .hookClear suppressedAt
  { s with hookAuthority := none, persistedAgentSession := none }

/-- Without a source and without a hook authority there is no sequence to check. -/
def clearHookAuthorityWithMutation (s : TerminalState) (source : Option String)
    (seq : Option UInt64) (now suppressedAt : Instant) :
    TerminalState × Option TerminalStateMutation :=
  let clear (s : TerminalState) : TerminalState × Option TerminalStateMutation :=
    let shouldClear := s.hookAuthority.any fun authority =>
      source.all fun source => authority.source = source
    if !shouldClear then
      (s, none)
    else
      let previousSession := s.currentSessionIdentityForPersistence
      let (s, change) :=
        (s.noteClearedHookAuthority suppressedAt).recomputeEffectiveState (s.previousAt now) now
      (s, some ⟨change, previousSession.isSome⟩)
  match source.or (s.hookAuthority.map (·.source)) with
  | none => clear s
  | some sequenceSource => s.onAcceptedHookReport sequenceSource seq clear

/-- The evidence after a release: the screen's part of it is forgotten too. -/
def noteReleasedAgent (s : TerminalState) (source agentLabel : String) (suppressedAt : Instant) :
    TerminalState :=
  let preserveForeignPersistedSession := s.persistedAgentSession.any fun session =>
    session.source ≠ source || session.agent ≠ agentLabel
  let s := s.suppressFullLifecycleHookReport source agentLabel .hookClear suppressedAt
  { s with
    detectedAgent := none
    fallbackState := .unknown
    fallbackVisibleBlocker := false
    fallbackObservedAt := none
    hookAuthority := none
    persistedAgentSession :=
      if preserveForeignPersistedSession then s.persistedAgentSession else none }

def releaseAgentWithMutation (s : TerminalState) (source agentLabel : String)
    (seq : Option UInt64) (now suppressedAt : Instant) :
    TerminalState × Option TerminalStateMutation :=
  s.onAcceptedHookReport source seq fun s =>
    let ownedByAnother := s.hookAuthority.any fun authority =>
      authority.agentLabel ≠ agentLabel || authority.source ≠ source
    let matchesCurrentAgent := s.effectiveAgentLabel = some agentLabel
    let matchesPersistedSession := s.persistedAgentSessionMatches source agentLabel
    if ownedByAnother then
      (s, none)
    else if ¬matchesCurrentAgent ∧ ¬matchesPersistedSession then
      (s, none)
    else
      s.reported (s.noteReleasedAgent source agentLabel suppressedAt) now

/-! ### Sessions -/

def setPersistedAgentSession (s : TerminalState) (session : PersistedAgentSession) :
    TerminalState :=
  { s with persistedAgentSession := some session }

/-- The new evidence of an accepted session report, before the arbitration. -/
def noteAgentSessionRef (s : TerminalState) (session : PersistedAgentSession)
    (replacedHookSession : Option AgentSessionRef)
    (sessionReplacementAllowed foregroundTakeoverAllowed : Bool) (suppressedAt : Instant) :
    TerminalState :=
  let s :=
    if sessionReplacementAllowed || foregroundTakeoverAllowed then
      s.forgetStaleFullLifecycleHookSession session.source session.agent session.sessionRef
    else
      s
  let s :=
    match replacedHookSession with
    | some replacedHookSession =>
      let s := s.rememberStaleFullLifecycleHookSession session.source session.agent
        replacedHookSession
      { s with hookAuthority := none }
    | none =>
      if foregroundTakeoverAllowed then
        let s := s.suppressCurrentFullLifecycleHookAuthority .hookClear suppressedAt
        { s with hookAuthority := none }
      else
        s
  { s with persistedAgentSession := some session }

def setAgentSessionRefForSessionStart (s : TerminalState) (source agentLabel : String)
    (sessionRef : Option AgentSessionRef) (seq : Option UInt64)
    (sessionStartSource : Option String) (now suppressedAt : Instant) :
    TerminalState × Option TerminalStateMutation :=
  match sessionRef with
  | none => (s, none)
  | some sessionRef =>
    s.onAcceptedHookReport source seq fun s =>
      let sessionReplacementAllowed :=
        sessionStartSourceAllowsSessionReplacement source agentLabel sessionStartSource
      let ownerConflicts := s.currentSessionOwnerConflicts source agentLabel
      let foregroundTakeoverAllowed := ownerConflicts &&
        s.foregroundAgentConfirmsDifferentOwnerTakeover source agentLabel sessionRef
          sessionStartSource
      let replacedHookSession :=
        s.sameOwnerFullLifecycleHookAuthoritySessionRef source agentLabel sessionRef
      if s.knownAgentLabelConflictsWithDetectedAgent agentLabel then
        (s, none)
      else if ownerConflicts && !foregroundTakeoverAllowed then
        (s, none)
      else if (s.conflictingSameOwnerSessionRef source agentLabel sessionRef
          sessionStartSource).isSome then
        (s, none)
      else if replacedHookSession.isSome && !sessionReplacementAllowed then
        (s, none)
      else
        s.reported (s.noteAgentSessionRef ⟨source, agentLabel, sessionRef⟩ replacedHookSession
          sessionReplacementAllowed foregroundTakeoverAllowed suppressedAt) now

def clearAgentRuntimeIdentityAfterRespawn (s : TerminalState) : TerminalState :=
  { s with
    detectedAgent := none
    fallbackState := .unknown
    fallbackVisibleBlocker := false
    fallbackObservedAt := none
    hookAuthority := none
    persistedAgentSession := none
    agentMetadata := ∅
    suppressedFullLifecycleHookReports := ∅
    staleFullLifecycleHookSessions := ∅
    state := .unknown
    lastAgentStateChangeSeq := none
    launchArgv := none
    respawnShellOnExit := false
    recentAgentProcessExitAt := none
    pendingAgentResumePlan := none
    agentName := none }

/-! ### Metadata reports -/

def acceptMetadataReport (s : TerminalState) (source : String) (seq : Option UInt64)
    (includesTokens : Bool) : TerminalState × Except Unit Bool :=
  match seq with
  | none => (s, .ok true)
  | some seq =>
    if !sequenceIsFresh s.metadataReportSequences source (some seq) then
      (s, .ok false)
    else if includesTokens && source ∉ s.metadataTokenSequenceSources &&
        s.metadataTokenSequenceSources.card ≥ maxSequenceSources then
      (s, .error ())
    else
      ({ s with
        metadataReportSequences := s.metadataReportSequences.insert source seq
        metadataTokenSequenceSources :=
          if includesTokens then
            insert source s.metadataTokenSequenceSources
          else
            s.metadataTokenSequenceSources }, .ok true)

/-- The entry of a report that clears fields, made from the entry already there. -/
def patchedMetadata (metadata : AgentMetadata) (report : AgentMetadataReport) (now : Instant) :
    AgentMetadata :=
  let metadata :=
    if report.clearTitle then { metadata with title := none, titleReportedAt := none } else metadata
  let metadata :=
    if report.clearDisplayAgent then
      { metadata with displayAgent := none, displayAgentReportedAt := none }
    else
      metadata
  let metadata :=
    if report.clearStateLabels then
      { metadata with stateLabels := ∅, stateLabelReportedAt := ∅ }
    else
      metadata
  let metadata :=
    { metadata with
      agentLabel := report.agentLabel.or metadata.agentLabel
      appliesToSource := report.appliesToSource.or metadata.appliesToSource }
  let metadata :=
    report.title.elim metadata fun title =>
      { metadata with title := some title, titleReportedAt := some now }
  let metadata :=
    report.displayAgent.elim metadata fun displayAgent =>
      { metadata with displayAgent := some displayAgent, displayAgentReportedAt := some now }
  let metadata :=
    report.stateLabels.entries.foldl (fun metadata e =>
      { metadata with
        stateLabels := metadata.stateLabels.insert e.1 e.2
        stateLabelReportedAt := metadata.stateLabelReportedAt.insert e.1 now }) metadata
  let hasSetFields :=
    report.title.isSome || report.displayAgent.isSome || !report.stateLabels.entries.isEmpty
  if hasSetFields || report.ttl.isSome then
    { metadata with reportedAt := now, ttl := report.ttl, expiryEventPending := false }
  else
    metadata

/-- The entry a report that clears fields starts from when its source has none. -/
def emptyMetadata (report : AgentMetadataReport) (now : Instant) : AgentMetadata where
  source := report.source
  agentLabel := report.agentLabel
  appliesToSource := report.appliesToSource
  title := none
  displayAgent := none
  stateLabels := ∅
  reportedAt := now
  titleReportedAt := none
  displayAgentReportedAt := none
  stateLabelReportedAt := ∅
  ttl := report.ttl
  expiryEventPending := false

/-- The entry of a report that clears nothing; it replaces the one already there. -/
def replacingMetadata (report : AgentMetadataReport) (now : Instant) : AgentMetadata where
  source := report.source
  agentLabel := report.agentLabel
  appliesToSource := report.appliesToSource
  title := report.title
  displayAgent := report.displayAgent
  stateLabels := report.stateLabels
  reportedAt := now
  titleReportedAt := report.title.map fun _ => now
  displayAgentReportedAt := report.displayAgent.map fun _ => now
  stateLabelReportedAt := Table.collect (report.stateLabels.keys.map fun state => (state, now))
  ttl := report.ttl
  expiryEventPending := false

/-- The metadata table after a report, before the arbitration. -/
def noteAgentMetadata (s : TerminalState) (report : AgentMetadataReport) (now : Instant) :
    TerminalState :=
  let metadata :=
    if report.clearTitle || report.clearDisplayAgent || report.clearStateLabels then
      let old := (s.agentMetadata.lookup report.source).getD (emptyMetadata report now)
      patchedMetadata old report now
    else
      replacingMetadata report now
  let s := { s with agentMetadata := s.agentMetadata.insert report.source metadata }
  if report.ttl.isSome && s.agentMetadataIsVisibleIgnoringTtl metadata then
    let table := s.agentMetadata.modify report.source fun metadata =>
      { metadata with expiryEventPending := true }
    { s with agentMetadata := table }
  else
    s

def setAgentMetadata (s : TerminalState) (report : AgentMetadataReport) (now : Instant) :
    TerminalState × Option TerminalStateMutation :=
  match s.acceptMetadataReport report.source report.seq false with
  | (s, .ok true) =>
    let s :=
      if (s.agentMetadata.lookup report.source).any (agentMetadataIsExpired · now) then
        { s with agentMetadata := s.agentMetadata.erase report.source }
      else
        s
    let previous := s.previousAt now
    let s := s.noteAgentMetadata report now
    let (s, change) := s.recomputeEffectiveState previous now
    let s := if change.isSome then s.clearExpiryPendingForHiddenMetadata else s
    (s, some ⟨change, false⟩)
  | (s, _) => (s, none)

def effectivePresentation (s : TerminalState) (now : Instant) : EffectivePresentation :=
  s.effectivePresentationForStateAt s.state now

def nextAgentMetadataExpiry (s : TerminalState) (now : Instant) : Option Instant :=
  let deadlines := (s.agentMetadata.values.filter s.agentMetadataMatchesGuards).filterMap
    agentMetadataExpiry
  (deadlines.filter fun deadline =>
    now < deadline || s.agentMetadata.values.any fun metadata =>
      metadata.expiryEventPending && s.agentMetadataMatchesGuards metadata &&
        agentMetadataExpiry metadata = some deadline).min?

def expireAgentMetadataAt (s : TerminalState) (scheduledDeadline now : Instant) :
    TerminalState × Option TerminalStateMutation :=
  let due := s.agentMetadata.entries.filterMap fun e =>
    (agentMetadataExpiry e.2).bind fun deadline =>
      if deadline ≤ now then some (e.1, deadline) else none
  let (expired, stale) := due.partition fun e => scheduledDeadline ≤ e.2
  let fresh := stale.foldl (fun t e => t.erase e.1) s.agentMetadata
  let s := { s with agentMetadata := fresh }
  if expired.isEmpty then
    (s, none)
  else
  let previous := { s.previousAt now with
    presentation := s.effectivePresentationForStateAtIgnoringTtl s.state now }
  let live := expired.foldl (fun t e => t.erase e.1) s.agentMetadata
  let s := { s with agentMetadata := live }
  let (s, change) := s.recomputeEffectiveState previous now
  (s, some ⟨change, false⟩)

end TerminalState

/-! ### Runs -/

/-- An operation with its arguments and the instants it reads. -/
inductive TerminalOp
  | setDetectedStateWithScreenSignalsAt (agent : Option Agent) (fallbackState : AgentState)
      (visibleBlocker visibleIdle visibleWorking processExited : Bool) (now suppressedAt : Instant)
  | setHookAuthorityAt (source agentLabel : String) (state : AgentState) (message : Option String)
      (sessionRef : Option AgentSessionRef) (seq : Option UInt64) (now suppressedAt : Instant)
  | setAgentSessionRefForSessionStart (source agentLabel : String)
      (sessionRef : Option AgentSessionRef) (seq : Option UInt64)
      (sessionStartSource : Option String) (now suppressedAt : Instant)
  | clearHookAuthorityWithMutation (source : Option String) (seq : Option UInt64)
      (now suppressedAt : Instant)
  | releaseAgentWithMutation (source agentLabel : String) (seq : Option UInt64)
      (now suppressedAt : Instant)
  | setAgentMetadata (report : AgentMetadataReport) (now : Instant)
  | expireAgentMetadataAt (scheduledDeadline now : Instant)
  | setPersistedAgentSession (session : PersistedAgentSession)
  | clearAgentRuntimeIdentityAfterRespawn

def TerminalOp.apply (s : TerminalState) : TerminalOp → TerminalState
  | .setDetectedStateWithScreenSignalsAt agent fallbackState visibleBlocker visibleIdle
      visibleWorking processExited now suppressedAt =>
    (s.setDetectedStateWithScreenSignalsAt agent fallbackState visibleBlocker visibleIdle
      visibleWorking processExited now suppressedAt).1
  | .setHookAuthorityAt source agentLabel state message sessionRef seq now suppressedAt =>
    (s.setHookAuthorityAt source agentLabel state message sessionRef seq now suppressedAt).1
  | .setAgentSessionRefForSessionStart source agentLabel sessionRef seq sessionStartSource now
      suppressedAt =>
    (s.setAgentSessionRefForSessionStart source agentLabel sessionRef seq sessionStartSource now
      suppressedAt).1
  | .clearHookAuthorityWithMutation source seq now suppressedAt =>
    (s.clearHookAuthorityWithMutation source seq now suppressedAt).1
  | .releaseAgentWithMutation source agentLabel seq now suppressedAt =>
    (s.releaseAgentWithMutation source agentLabel seq now suppressedAt).1
  | .setAgentMetadata report now => (s.setAgentMetadata report now).1
  | .expireAgentMetadataAt scheduledDeadline now =>
    (s.expireAgentMetadataAt scheduledDeadline now).1
  | .setPersistedAgentSession session => s.setPersistedAgentSession session
  | .clearAgentRuntimeIdentityAfterRespawn => s.clearAgentRuntimeIdentityAfterRespawn

/-- The state a new terminal reaches by the operations, taken in this order. -/
def TerminalState.after (ops : List TerminalOp) : TerminalState :=
  ops.foldl TerminalOp.apply .new

end Ork3.Terminal
