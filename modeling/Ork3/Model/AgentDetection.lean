import Ork3.Model.AgentIdentity

/-!
# The agent-detection loops

`pane/agent_detection.rs` and the two loops of `pane.rs` that run it: the task of
`spawn_command_builder` and `spawn_basic_detection_task`. Instants and durations are milliseconds.
What the manifest of an agent says of a screen is a parameter.
-/

namespace Ork3.Pane

open Ork3.Terminal (Agent AgentState)

abbrev Millis := Nat

def agentPendingIdleConfirmations : Nat := 3
def agentPendingIdleCap : Millis := 700
def stableVisibleSignalRefresh : Millis := 800
def agentStartupGraceWindow : Millis := 3000
def agentMissConfirmationAttempts : Nat := 6
def processRecheckIdentified : Millis := 5000
def processRecheckMissingForegroundGroup : Millis := 30000
def processAcquisitionWindow : Millis := 8000
def processAcquisitionFastWindow : Millis := 1500
def processAcquisitionFastRecheck : Millis := 500
def processAcquisitionSlowRecheck : Millis := 2000
def processAcquisitionIdleReset : Millis := 2000

/-! ### Whether to publish -/

structure DetectionPublishState where
  state : AgentState
  visibleIdle : Bool
  visibleBlocker : Bool
  visibleWorking : Bool
  deriving DecidableEq

structure PendingIdleConfirmation where
  startedAt : Option Millis
  confirmations : Nat
  deriving DecidableEq

namespace PendingIdleConfirmation

def clear : PendingIdleConfirmation := ⟨none, 0⟩

def active (p : PendingIdleConfirmation) : Bool := p.startedAt.isSome

def shouldHoldWorkingToIdle (p : PendingIdleConfirmation) (previous next : DetectionPublishState)
    (agentChanged processExited : Bool) (now : Millis) : PendingIdleConfirmation × Bool :=
  if !(previous.state = .working && next.state = .idle && !next.visibleIdle &&
      !next.visibleBlocker && !agentChanged && !processExited) then (clear, false)
  else
    match p.startedAt with
    | none => (⟨some now, 0⟩, true)
    | some startedAt =>
      if agentPendingIdleCap ≤ now - startedAt then (clear, false)
      else
        let confirmations := min (p.confirmations + 1) 255
        if agentPendingIdleConfirmations ≤ confirmations then (clear, false)
        else (⟨some startedAt, confirmations⟩, true)

end PendingIdleConfirmation

inductive DetectionScreenReadDecision
  | read | skip
  deriving DecidableEq

structure DetectionScreenReadInput where
  state : AgentState
  agent : Option Agent
  pendingIdleActive : Bool
  agentChanged : Bool
  processExited : Bool
  currentDetectionContentSeq : Option Nat
  lastScreenScanDetectionContentSeq : Option Nat

def shouldSkipIdleScreenScan (input : DetectionScreenReadInput) : Bool :=
  if input.state ≠ .idle || input.agent.isNone || input.pendingIdleActive || input.agentChanged ||
      input.processExited then false
  else input.currentDetectionContentSeq.isSome &&
    input.lastScreenScanDetectionContentSeq = input.currentDetectionContentSeq

def decideDetectionScreenRead (input : DetectionScreenReadInput) : DetectionScreenReadDecision :=
  if shouldSkipIdleScreenScan input then .skip else .read

def shouldPublishDetectionUpdate (previous next : DetectionPublishState)
    (agentChanged processExited stableVisibleSignalRefreshDue : Bool) : Bool :=
  next.state ≠ previous.state || next.visibleIdle != previous.visibleIdle ||
    next.visibleBlocker != previous.visibleBlocker ||
    next.visibleWorking != previous.visibleWorking || agentChanged || processExited ||
    (stableVisibleSignalRefreshDue && next.visibleBlocker && previous.visibleBlocker)

def stableVisibleSignalRefreshDue (previous next : DetectionPublishState)
    (lastRefresh : Option Millis) (now : Millis) : Bool :=
  (next.visibleBlocker && previous.visibleBlocker) &&
    lastRefresh.all fun lastRefresh => stableVisibleSignalRefresh ≤ now - lastRefresh

structure AgentDetection where
  state : AgentState
  skipStateUpdate : Bool
  visibleIdle : Bool
  visibleBlocker : Bool
  visibleWorking : Bool
  deriving DecidableEq

/-- What a screen detection publishes. -/
def AgentDetection.publishState (detection : AgentDetection) : DetectionPublishState where
  state := detection.state
  visibleIdle := detection.visibleIdle && detection.state = .idle
  visibleBlocker := detection.visibleBlocker && detection.state = .blocked
  visibleWorking := detection.visibleWorking && detection.state = .working

/-- The next confirmation of an idle screen, and what is published. -/
def decideScreenDetectionPublish (previous : DetectionPublishState)
    (lastVisibleSignalRefresh : Option Millis) (detection : AgentDetection)
    (processExited agentChanged : Bool) (now : Millis) (pendingIdle : PendingIdleConfirmation) :
    PendingIdleConfirmation × Option DetectionPublishState :=
  let next := detection.publishState
  let due := stableVisibleSignalRefreshDue previous next lastVisibleSignalRefresh now
  let (pendingIdle, hold) :=
    pendingIdle.shouldHoldWorkingToIdle previous next agentChanged processExited now
  if hold then (pendingIdle, none)
  else if shouldPublishDetectionUpdate previous next agentChanged processExited due then
    (pendingIdle, some next)
  else (pendingIdle, none)

/-! ### The screen -/

structure DetectionInput where
  screen : String
  oscTitle : String
  oscProgress : String
  deriving DecidableEq

/-- What the terminal shows the detector, and the counter of its changes. -/
structure DetectionContent where
  input : DetectionInput
  detectionContentSeq : Nat

/-- Every change comes with an increment of the counter. -/
def DetectionContent.change (c : DetectionContent) (inputs : List DetectionInput) :
    DetectionContent :=
  inputs.foldl (fun c input => ⟨input, c.detectionContentSeq + 1⟩) c

def DetectionContent.clearAgentOscState (c : DetectionContent) : DetectionContent :=
  { c with input := ⟨c.input.screen, "", ""⟩ }

section
variable (detectWithOsc : Agent → DetectionInput → AgentDetection)

def detectAgentWithOsc (agent : Option Agent) (input : DetectionInput) : AgentDetection :=
  match agent with
  | none => ⟨.unknown, false, false, false, false⟩
  | some agent => detectWithOsc agent input

def shouldSkipStateUpdate (agent : Option Agent) (screen : String) : Bool :=
  agent.any fun agent => (detectWithOsc agent ⟨screen, "", ""⟩).skipStateUpdate

def detectionUpdateForPublishWithOsc (agent : Option Agent) (input : DetectionInput)
    (processExited : Bool) : Option AgentDetection :=
  if processExited then some ⟨.idle, false, true, false, false⟩
  else
    let detection := detectAgentWithOsc detectWithOsc agent input
    if detection.skipStateUpdate then none else some detection

end

/-! ### The foreground process -/

structure AgentDetectionPresence where
  currentAgent : Option Agent
  consecutiveMisses : Nat
  deriving DecidableEq

namespace AgentDetectionPresence

def fromAgent (currentAgent : Option Agent) : AgentDetectionPresence := ⟨currentAgent, 0⟩

def clearCurrentAgent (p : AgentDetectionPresence) : AgentDetectionPresence × Bool :=
  if p.currentAgent.isNone then ({ p with consecutiveMisses := 0 }, false)
  else (⟨none, 0⟩, true)

def observeProcessProbe (p : AgentDetectionPresence) :
    Option Agent → AgentDetectionPresence × Bool
  | some agent =>
    if some agent = p.currentAgent then ({ p with consecutiveMisses := 0 }, false)
    else (⟨some agent, 0⟩, true)
  | none =>
    if p.currentAgent.isNone then ({ p with consecutiveMisses := 0 }, false)
    else
      let misses := min (p.consecutiveMisses + 1) 255
      if misses < agentMissConfirmationAttempts then
        ({ p with consecutiveMisses := misses }, false)
      else (⟨none, 0⟩, true)

end AgentDetectionPresence

inductive ForegroundShellAgentAction
  | observeProbe | reportProcessExit | clearAgent
  deriving DecidableEq

def foregroundShellAgentAction (previousAgent newAgent : Option Agent)
    (foregroundIsPaneShell processExitReported : Bool) : ForegroundShellAgentAction :=
  if previousAgent.isNone || newAgent.isSome then .observeProbe
  else if processExitReported then .clearAgent
  else if foregroundIsPaneShell then .reportProcessExit
  else .observeProbe

structure ProcessProbeInput where
  currentAgent : Option Agent
  suppressedAgent : Option Agent
  foregroundPgid : Option Nat
  lastForegroundPgid : Option Nat
  hasProcessProbe : Bool
  acquisitionAge : Option Millis
  pendingForegroundShellClear : Bool
  pendingRestoreProbe : Bool
  elapsedSinceProcessCheck : Millis

def foregroundGroupChanged (foregroundPgid lastForegroundPgid : Option Nat) : Bool :=
  foregroundPgid ≠ lastForegroundPgid && (foregroundPgid.isSome || lastForegroundPgid.isSome)

def shouldSkipProcessProbeForLifecycleAuthority (fullLifecycleAuthorityActive : Bool)
    (input : ProcessProbeInput) : Bool :=
  fullLifecycleAuthorityActive && !input.pendingForegroundShellClear &&
    input.suppressedAgent.isNone && input.hasProcessProbe &&
    !foregroundGroupChanged input.foregroundPgid input.lastForegroundPgid

def acquisitionProbeDue (input : ProcessProbeInput) : Bool :=
  match input.acquisitionAge with
  | none => false
  | some age =>
    let interval := if age ≤ processAcquisitionFastWindow then processAcquisitionFastRecheck
      else processAcquisitionSlowRecheck
    age ≤ processAcquisitionWindow && interval ≤ input.elapsedSinceProcessCheck

def shouldProbeForegroundJob (input : ProcessProbeInput) : Bool :=
  let groupChanged := foregroundGroupChanged input.foregroundPgid input.lastForegroundPgid
  if input.pendingForegroundShellClear || input.pendingRestoreProbe then true
  else if input.suppressedAgent.isSome then !input.hasProcessProbe || groupChanged
  else if acquisitionProbeDue input then true
  else if input.currentAgent.isNone then
    !input.hasProcessProbe || groupChanged || (input.foregroundPgid.isNone &&
      processRecheckMissingForegroundGroup ≤ input.elapsedSinceProcessCheck)
  else groupChanged || processRecheckIdentified ≤ input.elapsedSinceProcessCheck

structure ProcessProbeResult where
  processGroupId : Option Nat
  foregroundIsPaneShell : Bool
  agent : Option Agent

structure PendingAgentRelease where
  agent : Agent
  untilInstant : Millis

def activePendingRelease (pendingRelease : Option PendingAgentRelease) (now : Millis) :
    Option Agent :=
  match pendingRelease with
  | some pending => if now < pending.untilInstant then some pending.agent else none
  | none => none

/-! ### The loops -/

inductive DetectionLoop
  | spawnCommandBuilder | spawnBasicDetectionTask
  deriving DecidableEq

structure StateChanged where
  agent : Option Agent
  state : AgentState
  visibleBlocker : Bool
  visibleWorking : Bool
  processExited : Bool
  observedAt : Millis
  deriving DecidableEq

/-- The variables of a loop. Only the task of `spawn_command_builder` has `pendingRestoreProbe`. -/
structure DetectionTask where
  agentPresence : AgentDetectionPresence
  state : AgentState
  lastVisibleIdle : Bool
  lastVisibleBlocker : Bool
  lastVisibleWorking : Bool
  lastVisibleSignalRefresh : Option Millis
  lastProcessCheck : Millis
  lastForegroundPgid : Option Nat
  hasProcessProbe : Bool
  acquisitionStartedAt : Option Millis
  lastContentChangeAt : Option Millis
  pendingForegroundShellClear : Bool
  foregroundShellExitReported : Bool
  releaseWasActive : Bool
  pendingRestoreProbe : Bool
  lastDetectionText : String
  lastScreenScanDetectionContentSeq : Option Nat
  agentStartupGraceUntil : Option Millis
  pendingIdle : PendingIdleConfirmation

/-- What an iteration meets: an instant at which the detection was reset while it slept, the time,
the flags and the processes as it reads them, and what happens to the screen before the probe,
before it loads the counter, and before it reads the text, the title and the progress. -/
structure Tick where
  reset : Option Millis
  now : Millis
  pendingRelease : Option PendingAgentRelease
  pid : Nat
  fullLifecycleAuthorityActive : Bool
  foregroundProcessGroupId : Option Nat
  probe : ProcessProbeResult
  beforeProbe : List DetectionInput
  beforeSeq : List DetectionInput
  beforeText : List DetectionInput
  beforeTitle : List DetectionInput
  beforeProgress : List DetectionInput

namespace Tick

def suppressedAgent (k : Tick) : Option Agent := activePendingRelease k.pendingRelease k.now

def foregroundPgid (k : Tick) : Option Nat :=
  if 0 < k.pid then k.foregroundProcessGroupId else none

/-- The agent the probe finds, unless it is the one that is being released. -/
def newAgent (k : Tick) : Option Agent :=
  match k.suppressedAgent with
  | some suppressed => if k.probe.agent = some suppressed then none else k.probe.agent
  | none => k.probe.agent

end Tick

namespace DetectionTask

/-- The task of `spawn_command_builder` starts with the agent that a restored pane had. -/
def start (loop : DetectionLoop) (detectedAgent : Option Agent) (now : Millis) : DetectionTask where
  agentPresence := match loop with
    | .spawnCommandBuilder => .fromAgent detectedAgent
    | .spawnBasicDetectionTask => .fromAgent none
  state := match loop with
    | .spawnCommandBuilder => .idle
    | .spawnBasicDetectionTask => .unknown
  lastVisibleIdle := match loop with
    | .spawnCommandBuilder => detectedAgent.isSome
    | .spawnBasicDetectionTask => false
  lastVisibleBlocker := false
  lastVisibleWorking := false
  lastVisibleSignalRefresh := none
  lastProcessCheck := now
  lastForegroundPgid := none
  hasProcessProbe := false
  acquisitionStartedAt := none
  lastContentChangeAt := none
  pendingForegroundShellClear := false
  foregroundShellExitReported := false
  releaseWasActive := false
  pendingRestoreProbe := match loop with
    | .spawnCommandBuilder => detectedAgent.isSome
    | .spawnBasicDetectionTask => false
  lastDetectionText := ""
  lastScreenScanDetectionContentSeq := none
  agentStartupGraceUntil := none
  pendingIdle := .clear

def reset (loop : DetectionLoop) (t : DetectionTask) (at' : Millis) : DetectionTask where
  agentPresence := .fromAgent none
  state := .unknown
  lastVisibleIdle := false
  lastVisibleBlocker := false
  lastVisibleWorking := false
  lastVisibleSignalRefresh := none
  lastProcessCheck := match loop with
    | .spawnCommandBuilder => t.lastProcessCheck
    | .spawnBasicDetectionTask => at'
  lastForegroundPgid := none
  hasProcessProbe := false
  acquisitionStartedAt := none
  lastContentChangeAt := none
  pendingForegroundShellClear := false
  foregroundShellExitReported := false
  releaseWasActive := false
  pendingRestoreProbe := false
  lastDetectionText := ""
  lastScreenScanDetectionContentSeq := none
  agentStartupGraceUntil := none
  pendingIdle := .clear

/-- Up to the probe: a reset that came while the loop slept, and the end of a release. -/
def wake (loop : DetectionLoop) (t : DetectionTask) (k : Tick) : DetectionTask :=
  let t := match k.reset with
    | some at' => t.reset loop at'
    | none => t
  let t := if k.suppressedAgent.isNone && t.releaseWasActive then
      { t with
        hasProcessProbe := false
        acquisitionStartedAt := none
        lastContentChangeAt := none }
    else t
  { t with releaseWasActive := k.suppressedAgent.isSome }

def probeInput (t : DetectionTask) (k : Tick) : ProcessProbeInput where
  currentAgent := t.agentPresence.currentAgent
  suppressedAgent := k.suppressedAgent
  foregroundPgid := k.foregroundPgid
  lastForegroundPgid := t.lastForegroundPgid
  hasProcessProbe := t.hasProcessProbe
  acquisitionAge := t.acquisitionStartedAt.map (k.now - ·)
  pendingForegroundShellClear := t.pendingForegroundShellClear
  pendingRestoreProbe := t.pendingRestoreProbe
  elapsedSinceProcessCheck := k.now - t.lastProcessCheck

def shouldCheckProcess (t : DetectionTask) (k : Tick) : Bool :=
  0 < k.pid && !shouldSkipProcessProbeForLifecycleAuthority k.fullLifecycleAuthorityActive
    (t.probeInput k) && shouldProbeForegroundJob (t.probeInput k)

def startProbe (t : DetectionTask) (k : Tick) : DetectionTask :=
  { t with
    lastProcessCheck := k.now
    hasProcessProbe := true }

def action (t : DetectionTask) (k : Tick) : ForegroundShellAgentAction :=
  foregroundShellAgentAction t.agentPresence.currentAgent k.newAgent k.probe.foregroundIsPaneShell
    t.foregroundShellExitReported

/-- Takes the action, and says whether the agent has changed. -/
def takeAction (t : DetectionTask) (k : Tick) : DetectionTask × Bool :=
  match t.action k with
  | .reportProcessExit => ({ t with pendingForegroundShellClear := true }, false)
  | .clearAgent =>
    let (presence, changed) := t.agentPresence.clearCurrentAgent
    ({ t with
      pendingForegroundShellClear := false
      foregroundShellExitReported := false
      agentPresence := presence }, changed)
  | .observeProbe =>
    let (presence, changed) := t.agentPresence.observeProcessProbe k.newAgent
    ({ t with
      pendingForegroundShellClear := false
      foregroundShellExitReported := false
      agentPresence := presence }, changed)

/-- What the probe leaves in the variables that steer later probes. -/
def noteProbe (loop : DetectionLoop) (t : DetectionTask) (k : Tick)
    (hadProcessProbe processGroupChanged : Bool) : DetectionTask :=
  if k.newAgent.isSome then
    { t with
      lastForegroundPgid := match loop with
        | .spawnCommandBuilder => k.probe.processGroupId
        | .spawnBasicDetectionTask => k.probe.processGroupId.or k.foregroundPgid
      acquisitionStartedAt := none
      lastContentChangeAt := none
      pendingRestoreProbe := false }
  else if t.agentPresence.currentAgent.isNone then
    { t with
      lastForegroundPgid := k.probe.processGroupId.or k.foregroundPgid
      acquisitionStartedAt := if hadProcessProbe && processGroupChanged then some k.now
        else t.acquisitionStartedAt
      pendingRestoreProbe := false }
  else { t with lastForegroundPgid := k.probe.processGroupId.or k.foregroundPgid }

/-- Another agent, or none, has been found. -/
def changeAgent (t : DetectionTask) (agent : Option Agent) (now : Millis) :
    DetectionTask × List StateChanged :=
  let t := { t with
    pendingIdle := .clear
    lastScreenScanDetectionContentSeq := none }
  if agent.isSome then
    ({ t with
      agentStartupGraceUntil := some (now + agentStartupGraceWindow)
      state := .idle
      lastVisibleIdle := true
      lastVisibleBlocker := false
      lastVisibleWorking := false
      lastVisibleSignalRefresh := none }, [⟨agent, .idle, false, false, false, now⟩])
  else ({ t with agentStartupGraceUntil := none }, [])

/-- The loop after its probe. `changed` is also whether the OSC state has been cleared. -/
structure Probed where
  task : DetectionTask
  action : Option ForegroundShellAgentAction
  agent : Option Agent
  changed : Bool
  events : List StateChanged

/-- The probe of the foreground process and what follows from it. -/
def probe (loop : DetectionLoop) (t : DetectionTask) (k : Tick) : Probed :=
  let previousAgent := t.agentPresence.currentAgent
  let groupChanged := foregroundGroupChanged k.foregroundPgid t.lastForegroundPgid
  let (acted, changed) := (t.startProbe k).takeAction k
  let noted := acted.noteProbe loop k t.hasProcessProbe groupChanged
  let agent := if changed then noted.agentPresence.currentAgent else previousAgent
  if changed && agent ≠ previousAgent then
    let (task, events) := noted.changeAgent agent k.now
    ⟨task, some (t.action k), agent, true, events⟩
  else ⟨noted, some (t.action k), agent, false, []⟩

def probeIfDue (loop : DetectionLoop) (t : DetectionTask) (k : Tick) : Probed :=
  if t.shouldCheckProcess k then t.probe loop k
  else ⟨t, none, t.agentPresence.currentAgent, false, []⟩

def syncContentChangeAcquisition (t : DetectionTask) (suppressedAgent : Option Agent)
    (processGroupChanged contentChanged : Bool) (now : Millis) : DetectionTask :=
  if t.agentPresence.currentAgent.isSome || suppressedAgent.isSome || processGroupChanged then t
  else if contentChanged then
    let shouldStart := t.acquisitionStartedAt.all fun started =>
      processAcquisitionWindow < now - started && t.lastContentChangeAt.all fun lastChange =>
        processAcquisitionIdleReset ≤ now - lastChange
    { t with
      acquisitionStartedAt := if shouldStart then some now else t.acquisitionStartedAt
      lastContentChangeAt := some now }
  else
    match t.acquisitionStartedAt, t.lastContentChangeAt with
    | some started, some lastChange =>
      if processAcquisitionWindow < now - started &&
          processAcquisitionIdleReset ≤ now - lastChange then
        { t with
          acquisitionStartedAt := none
          lastContentChangeAt := none }
      else t
    | _, _ => t

def published (t : DetectionTask) : DetectionPublishState :=
  ⟨t.state, t.lastVisibleIdle, t.lastVisibleBlocker, t.lastVisibleWorking⟩

def applyAgentDetectionPublishUpdate (t : DetectionTask) (agent : Option Agent)
    (update : DetectionPublishState) (processExited : Bool) (observedAt : Millis) :
    DetectionTask × List StateChanged :=
  ({ t with
    state := update.state
    lastVisibleIdle := update.visibleIdle
    lastVisibleBlocker := update.visibleBlocker
    lastVisibleWorking := update.visibleWorking
    lastVisibleSignalRefresh :=
      if update.visibleBlocker || update.visibleWorking then some observedAt else none
    foregroundShellExitReported := t.foregroundShellExitReported || processExited },
    [⟨agent, update.state, update.visibleBlocker, update.visibleWorking, processExited,
      observedAt⟩])

def processExited (t : DetectionTask) (agent : Option Agent) : Bool :=
  t.pendingForegroundShellClear && agent.isSome && !t.foregroundShellExitReported

def clearPendingIdle (t : DetectionTask) : DetectionTask := { t with pendingIdle := .clear }

section
variable (detectWithOsc : Agent → DetectionInput → AgentDetection)
  (decide : DetectionScreenReadInput → DetectionScreenReadDecision)

/-- The screen has been read: what it shows is compared with what was published last. -/
def publishScreen (t : DetectionTask) (k : Tick) (agent : Option Agent)
    (agentChanged processExited : Bool) (input : DetectionInput) :
    DetectionTask × List StateChanged :=
  match detectionUpdateForPublishWithOsc detectWithOsc agent input processExited with
  | none => (t.clearPendingIdle, [])
  | some detection =>
    let (pendingIdle, update) := decideScreenDetectionPublish t.published t.lastVisibleSignalRefresh
      detection processExited agentChanged k.now t.pendingIdle
    let t := { t with pendingIdle := pendingIdle }
    match update with
    | none => (t, [])
    | some update => t.applyAgentDetectionPublishUpdate agent update processExited k.now

/-- The task of `spawn_command_builder` leaves the state alone also when a process has exited. -/
def skipsStateUpdate (loop : DetectionLoop) (agent : Option Agent) (processExited : Bool)
    (screen : String) : Bool :=
  match loop with
  | .spawnCommandBuilder => shouldSkipStateUpdate detectWithOsc agent screen
  | .spawnBasicDetectionTask =>
    !processExited && shouldSkipStateUpdate detectWithOsc agent screen

def readScreen (loop : DetectionLoop) (t : DetectionTask) (k : Tick) (agent : Option Agent)
    (agentChanged processGroupChanged : Bool) (seq : Nat) (input : DetectionInput) :
    DetectionTask × List StateChanged :=
  let processExited := t.processExited agent
  let currentSeq := if agent.isSome then some seq else none
  match decide ⟨t.state, agent, t.pendingIdle.active, agentChanged, processExited, currentSeq,
      t.lastScreenScanDetectionContentSeq⟩ with
  | .skip => (t, [])
  | .read =>
    let contentChanged := input.screen ≠ t.lastDetectionText
    let t := { t with
      lastScreenScanDetectionContentSeq := currentSeq
      lastDetectionText := input.screen }
    if skipsStateUpdate detectWithOsc loop agent processExited input.screen then
      (t.clearPendingIdle, [])
    else
      (t.syncContentChangeAcquisition k.suppressedAgent processGroupChanged contentChanged
        k.now).publishScreen detectWithOsc k agent agentChanged processExited input

/-- The grace window of a new agent ends with the exit of its process. -/
def endGraceAtExit (loop : DetectionLoop) (t : DetectionTask) : DetectionTask :=
  { t with
    agentStartupGraceUntil := none
    lastScreenScanDetectionContentSeq := match loop with
      | .spawnCommandBuilder => none
      | .spawnBasicDetectionTask => t.lastScreenScanDetectionContentSeq
    pendingIdle := .clear }

def endGrace (loop : DetectionLoop) (t : DetectionTask) : DetectionTask :=
  { t with
    agentStartupGraceUntil := none
    lastScreenScanDetectionContentSeq := match loop with
      | .spawnCommandBuilder => t.lastScreenScanDetectionContentSeq
      | .spawnBasicDetectionTask => none
    pendingIdle := .clear }

def afterProbe (loop : DetectionLoop) (t : DetectionTask) (k : Tick) (agent : Option Agent)
    (agentChanged processGroupChanged : Bool) (seq : Nat) (input : DetectionInput) :
    DetectionTask × List StateChanged :=
  let processExited := t.processExited agent
  if k.fullLifecycleAuthorityActive && !processExited then (t.clearPendingIdle, [])
  else
    match t.agentStartupGraceUntil with
    | none => t.readScreen detectWithOsc decide loop k agent agentChanged processGroupChanged seq
        input
    | some graceUntil =>
      if processExited then
        (t.endGraceAtExit loop).readScreen detectWithOsc decide loop k agent agentChanged
          processGroupChanged seq input
      else if k.now < graceUntil then (t.clearPendingIdle, [])
      else (t.endGrace loop, [])

end

end DetectionTask

/-- An iteration: what the loop and the screen are after it, the agent before its probe, the action
it took and what it published. -/
structure Iteration where
  task : DetectionTask
  content : DetectionContent
  action : Option ForegroundShellAgentAction
  previousAgent : Option Agent
  events : List StateChanged

section
variable (detectWithOsc : Agent → DetectionInput → AgentDetection)
  (decide : DetectionScreenReadInput → DetectionScreenReadDecision) (loop : DetectionLoop)

/-- One iteration of a loop. -/
def iterate (t : DetectionTask) (content : DetectionContent) (k : Tick) : Iteration :=
  let awake := t.wake loop k
  let groupChanged := foregroundGroupChanged k.foregroundPgid awake.lastForegroundPgid
  let probed := awake.probeIfDue loop k
  let content := content.change k.beforeProbe
  let content := if probed.changed then content.clearAgentOscState else content
  let atSeq := content.change k.beforeSeq
  let atText := atSeq.change k.beforeText
  let atTitle := atText.change k.beforeTitle
  let atProgress := atTitle.change k.beforeProgress
  let (task, events) := probed.task.afterProbe detectWithOsc decide loop k probed.agent
    probed.changed groupChanged atSeq.detectionContentSeq
    ⟨atText.input.screen, atTitle.input.oscTitle, atProgress.input.oscProgress⟩
  ⟨task, atProgress, probed.action, awake.agentPresence.currentAgent, probed.events ++ events⟩

/-- The iterations of a loop. -/
def iterations (t : DetectionTask) (content : DetectionContent) : List Tick → List Iteration
  | [] => []
  | k :: ks =>
    let i := iterate detectWithOsc decide loop t content k
    i :: iterations i.task i.content ks

/-- The loop and the screen after the iterations. -/
def afterIterations (t : DetectionTask) (content : DetectionContent) :
    List Tick → DetectionTask × DetectionContent
  | [] => (t, content)
  | k :: ks =>
    let i := iterate detectWithOsc decide loop t content k
    afterIterations i.task i.content ks

end

end Ork3.Pane
