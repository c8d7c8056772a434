import Ork3.Model.AgentDetection

/-!
# The exits that the detection loops report

An iteration that finds the exit of an agent publishes it, and one whose probe changes the agent
publishes the change, unless it is left before: at a screen that leaves the state alone in the task
of `spawn_command_builder`, and while a lifecycle authority is active in both.
-/

namespace Ork3.Pane

open Ork3.Terminal (Agent AgentState)

/-- The exit that the probe reports is published in the same iteration. -/
def Iteration.PublishesExit (i : Iteration) : Prop :=
  i.action = some .reportProcessExit →
    ∃ e ∈ i.events, e.processExited = true ∧ e.agent = i.previousAgent

/-- The agent that the probe has found is published in the same iteration, and no other. -/
def Iteration.PublishesChange (i : Iteration) : Prop :=
  i.task.agentPresence.currentAgent ≠ i.previousAgent →
    i.events ≠ [] ∧ ∀ e ∈ i.events, e.agent = i.task.agentPresence.currentAgent

/-- The exit of the agent has been published, and the loop has had this agent since. -/
def ExitPublished (past : List Iteration) (a : Agent) : Prop :=
  ∃ before i after, past = before ++ i :: after ∧
    (∃ e ∈ i.events, e.processExited = true ∧ e.agent = some a) ∧
    ∀ j ∈ i :: after, j.task.agentPresence.currentAgent = some a

/-- The screen when the iteration reads its text. -/
def DetectionContent.screenRead (content : DetectionContent) (k : Tick) : DetectionContent :=
  ((content.change k.beforeProbe).change k.beforeSeq).change k.beforeText

lemma DetectionContent.change_screen {c c' : DetectionContent}
    (h : c.input.screen = c'.input.screen) (inputs : List DetectionInput) :
    (c.change inputs).input.screen = (c'.change inputs).input.screen := by
  induction inputs generalizing c c' with
  | nil => exact h
  | cons input inputs ih => exact ih rfl

namespace DetectionTask

/-- The probe takes the agent away. -/
def GivesUp (t : DetectionTask) (k : Tick) : Prop :=
  t.agentPresence.currentAgent ≠ none ∧ (t.action k = .clearAgent ∨
    t.action k = .observeProbe ∧
      (t.agentPresence.observeProcessProbe k.newAgent).1.currentAgent = none)

section
variable (detectWithOsc : Agent → DetectionInput → AgentDetection) (loop : DetectionLoop)

/-- The iteration is not left before it publishes: in the task of `spawn_command_builder` the screen
at an exit is none that leaves the state alone, and no agent is given up while a lifecycle authority
is active. -/
def Heard (t : DetectionTask) (content : DetectionContent) (k : Tick) : Prop :=
  let awake := t.wake loop k
  let screen := (content.screenRead k).input.screen
  awake.shouldCheckProcess k = true →
    (loop = .spawnCommandBuilder → awake.action k = .reportProcessExit →
      shouldSkipStateUpdate detectWithOsc awake.agentPresence.currentAgent screen = false) ∧
    (k.fullLifecycleAuthorityActive = true → ¬awake.GivesUp k)

end

/-! ### After the probe -/

section
variable {detectWithOsc : Agent → DetectionInput → AgentDetection} {loop : DetectionLoop}
  {decide : DetectionScreenReadInput → DetectionScreenReadDecision} {t t' : DetectionTask}
  {k : Tick} {agent : Option Agent} {agentChanged processGroupChanged : Bool} {seq : Nat}
  {input : DetectionInput} {events : List StateChanged}

/-- What the rest of an iteration keeps, and what it publishes. -/
structure Publishes (t : DetectionTask) (agent : Option Agent)
    (r : DetectionTask × List StateChanged) : Prop where
  agentPresence : r.1.agentPresence = t.agentPresence
  agents : ∀ e ∈ r.2, e.agent = agent
  reported : r.1.foregroundShellExitReported = true → t.foregroundShellExitReported = true ∨
    agent ≠ none ∧ ∃ e ∈ r.2, e.processExited = true

lemma Publishes.nothing (hpresence : t'.agentPresence = t.agentPresence)
    (hreported : t'.foregroundShellExitReported = t.foregroundShellExitReported) :
    Publishes t agent (t', []) where
  agentPresence := hpresence
  agents _ he := nomatch he
  reported h := .inl (hreported ▸ h)

lemma Publishes.of_same {r : DetectionTask × List StateChanged} (h : Publishes t' agent r)
    (hpresence : t'.agentPresence = t.agentPresence)
    (hreported : t'.foregroundShellExitReported = t.foregroundShellExitReported) :
    Publishes t agent r where
  agentPresence := h.agentPresence.trans hpresence
  agents := h.agents
  reported hr := hreported ▸ h.reported hr

lemma syncContentChangeAcquisition_keeps (t : DetectionTask) (suppressed : Option Agent)
    (changed contentChanged : Bool) (now : Millis) :
    let t' := t.syncContentChangeAcquisition suppressed changed contentChanged now
    t'.agentPresence = t.agentPresence ∧
      t'.foregroundShellExitReported = t.foregroundShellExitReported := by
  dsimp only
  unfold syncContentChangeAcquisition
  split_ifs
  · exact ⟨rfl, rfl⟩
  · exact ⟨rfl, rfl⟩
  · split
    · split_ifs <;> exact ⟨rfl, rfl⟩
    · exact ⟨rfl, rfl⟩

lemma publishes_publishScreen {exited : Bool} (hexited : exited = true → agent ≠ none) :
    Publishes t agent (t.publishScreen detectWithOsc k agent agentChanged exited input) := by
  unfold publishScreen
  split
  · exact .nothing rfl rfl
  · dsimp only
    split
    · exact .nothing rfl rfl
    · refine ⟨rfl, fun e he => ?_, fun hreported => ?_⟩
      · rw [List.mem_singleton.mp he]
      · rcases (Bool.or_eq_true _ _).mp hreported with hbefore | hnow
        · exact .inl hbefore
        · exact .inr ⟨hexited hnow, _, List.mem_singleton_self _, hnow⟩

lemma processExited_some (h : t.processExited agent = true) : agent ≠ none := by
  rintro rfl
  unfold processExited at h
  rw [Option.isSome_none, Bool.and_false, Bool.false_and] at h
  cases h

lemma publishes_readScreen : Publishes t agent (t.readScreen detectWithOsc decide loop k agent
    agentChanged processGroupChanged seq input) := by
  unfold readScreen
  dsimp only
  generalize (if agent.isSome then some seq else none) = currentSeq
  split
  · exact .nothing rfl rfl
  · split
    · exact .nothing rfl rfl
    · obtain ⟨hpresence, hreported⟩ := syncContentChangeAcquisition_keeps { t with
        lastScreenScanDetectionContentSeq := currentSeq
        lastDetectionText := input.screen } k.suppressedAgent processGroupChanged
        (input.screen ≠ t.lastDetectionText) k.now
      exact (publishes_publishScreen processExited_some).of_same hpresence hreported

lemma publishes_afterProbe : Publishes t agent (t.afterProbe detectWithOsc decide loop k agent
    agentChanged processGroupChanged seq input) := by
  unfold afterProbe
  dsimp only
  split
  · exact .nothing rfl rfl
  · split
    · exact publishes_readScreen
    · split
      · exact publishes_readScreen.of_same rfl rfl
      · split <;> exact .nothing rfl rfl

/-! ### What is published whatever the screen shows -/

lemma decideScreenDetectionPublish_of_changed {previous : DetectionPublishState}
    {refresh : Option Millis} {detection : AgentDetection} {exited : Bool} {now : Millis}
    {pendingIdle : PendingIdleConfirmation} (h : agentChanged = true ∨ exited = true) :
    decideScreenDetectionPublish previous refresh detection exited agentChanged now pendingIdle =
      (.clear, some detection.publishState) := by
  have hhold : pendingIdle.shouldHoldWorkingToIdle previous detection.publishState agentChanged
      exited now = (.clear, false) := by
    unfold PendingIdleConfirmation.shouldHoldWorkingToIdle
    refine if_pos ?_
    rcases h with hchanged | hexited
    · rw [hchanged, Bool.not_true, Bool.and_false, Bool.false_and]
      rfl
    · rw [hexited, Bool.not_true, Bool.and_false]
      rfl
  have hpublish (due : Bool) : shouldPublishDetectionUpdate previous detection.publishState
      agentChanged exited due = true := by
    unfold shouldPublishDetectionUpdate
    rcases h with hchanged | hexited
    · rw [hchanged, Bool.or_true, Bool.true_or, Bool.true_or]
    · rw [hexited, Bool.or_true, Bool.true_or]
  unfold decideScreenDetectionPublish
  dsimp only
  rw [hhold, hpublish]
  rfl

lemma publishScreen_of_some {detection : AgentDetection} {exited : Bool}
    (hdetection : detectionUpdateForPublishWithOsc detectWithOsc agent input exited =
      some detection) (h : agentChanged = true ∨ exited = true) :
    ∃ e, (t.publishScreen detectWithOsc k agent agentChanged exited input).2 = [e] ∧
      e.agent = agent ∧ e.processExited = exited := by
  unfold publishScreen
  rw [hdetection]
  dsimp only
  rw [decideScreenDetectionPublish_of_changed h]
  exact ⟨_, rfl, rfl, rfl⟩

lemma decideDetectionScreenRead_read (input : DetectionScreenReadInput)
    (h : input.agent = none ∨ input.processExited = true) :
    decideDetectionScreenRead input = .read := by
  have hskip : shouldSkipIdleScreenScan input = false := by
    unfold shouldSkipIdleScreenScan
    refine if_pos ?_
    rcases h with hnone | hexited
    · rw [hnone, Option.isNone_none, Bool.or_true, Bool.true_or, Bool.true_or, Bool.true_or]
    · rw [hexited, Bool.or_true]
  unfold decideDetectionScreenRead
  rw [hskip]
  rfl

lemma skipsStateUpdate_exited (agent : Option Agent) (screen : String) :
    skipsStateUpdate detectWithOsc loop agent true screen =
      (loop = .spawnCommandBuilder && shouldSkipStateUpdate detectWithOsc agent screen) := by
  cases loop <;> rfl

/-- The exit of a process is published unless its screen leaves the state alone. -/
lemma readScreen_exited {r : DetectionTask × List StateChanged}
    (hr : r = t.readScreen detectWithOsc decideDetectionScreenRead loop k agent agentChanged
      processGroupChanged seq input) (hexited : t.processExited agent = true) :
    (skipsStateUpdate detectWithOsc loop agent true input.screen = true → r.2 = []) ∧
      (skipsStateUpdate detectWithOsc loop agent true input.screen = false →
        ∃ e ∈ r.2, e.processExited = true ∧ e.agent = agent) := by
  have hread := decideDetectionScreenRead_read (⟨t.state, agent, t.pendingIdle.active,
    agentChanged, true, if agent.isSome then some seq else none,
    t.lastScreenScanDetectionContentSeq⟩) (.inr rfl)
  rw [hr]
  unfold readScreen
  rw [hexited]
  dsimp only
  rw [hread]
  dsimp only
  refine ⟨fun hskips => ?_, fun hskips => ?_⟩
  · rw [hskips]
    rfl
  · rw [hskips]
    have hdetection : detectionUpdateForPublishWithOsc detectWithOsc agent input true =
        some ⟨.idle, false, true, false, false⟩ :=
      rfl
    obtain ⟨e, hevents, hagent, hexit⟩ := publishScreen_of_some hdetection (.inr rfl)
    exact ⟨e, hevents ▸ List.mem_singleton_self e, hexit, hagent⟩

lemma afterProbe_exited {r : DetectionTask × List StateChanged}
    (hr : r = t.afterProbe detectWithOsc decideDetectionScreenRead loop k agent agentChanged
      processGroupChanged seq input) (hexited : t.processExited agent = true) :
    (skipsStateUpdate detectWithOsc loop agent true input.screen = true → r.2 = []) ∧
      (skipsStateUpdate detectWithOsc loop agent true input.screen = false →
        ∃ e ∈ r.2, e.processExited = true ∧ e.agent = agent) := by
  have hended : (t.endGraceAtExit loop).processExited agent = true := hexited
  unfold afterProbe at hr
  rw [hexited] at hr
  dsimp only at hr
  rw [Bool.not_true, Bool.and_false, if_neg Bool.false_ne_true] at hr
  split at hr
  · exact readScreen_exited hr hexited
  · rw [if_pos rfl] at hr
    exact readScreen_exited hr hended

/-- That there is no agent any more is published unless a lifecycle authority is active. -/
lemma afterProbe_gone {r : DetectionTask × List StateChanged}
    (hr : r = t.afterProbe detectWithOsc decideDetectionScreenRead loop k none true
      processGroupChanged seq input) (hgrace : t.agentStartupGraceUntil = none) :
    (k.fullLifecycleAuthorityActive = true → r.2 = []) ∧
      (k.fullLifecycleAuthorityActive = false → r.2 ≠ []) := by
  have hexited : t.processExited none = false :=
    Bool.eq_false_iff.mpr fun h => processExited_some h rfl
  have hread := decideDetectionScreenRead_read (⟨t.state, none, t.pendingIdle.active,
    true, false, none, t.lastScreenScanDetectionContentSeq⟩) (.inl rfl)
  have hskips : skipsStateUpdate detectWithOsc loop none false input.screen = false := by
    cases loop <;> rfl
  rw [hr]
  unfold afterProbe
  rw [hexited, hgrace]
  dsimp only
  refine ⟨fun hactive => ?_, fun hactive => ?_⟩
  · rw [hactive]
    rfl
  · rw [hactive, Bool.false_and, if_neg Bool.false_ne_true]
    unfold readScreen
    rw [hexited]
    dsimp only
    rw [Option.isSome_none, if_neg Bool.false_ne_true, hread]
    dsimp only
    rw [hskips, if_neg Bool.false_ne_true]
    have hdetection : detectionUpdateForPublishWithOsc detectWithOsc none input false =
        some ⟨.unknown, false, false, false, false⟩ :=
      rfl
    obtain ⟨e, hevents, -, -⟩ := publishScreen_of_some hdetection (.inl rfl)
    rw [hevents]
    exact List.cons_ne_nil e []

/-! ### The probe -/

/-- What the probe of the foreground process leads to. -/
inductive ProbeCase (t : DetectionTask) (k : Tick) (p : Probed) : Prop
  | exits (haction : t.action k = .reportProcessExit) (hsome : t.agentPresence.currentAgent ≠ none)
      (hpresence : p.task.agentPresence = t.agentPresence)
      (hagent : p.agent = t.agentPresence.currentAgent) (hevents : p.events = [])
      (hpending : p.task.pendingForegroundShellClear = true)
      (hreported : p.task.foregroundShellExitReported = false)
  | keeps (haction : t.action k = .observeProbe) (hgives : ¬t.GivesUp k)
      (hcurrent : p.task.agentPresence.currentAgent = t.agentPresence.currentAgent)
      (hagent : p.agent = t.agentPresence.currentAgent) (hevents : p.events = [])
      (hreported : p.task.foregroundShellExitReported = false)
  | finds (haction : t.action k = .observeProbe) (hgives : ¬t.GivesUp k) (e : StateChanged)
      (hcurrent : p.task.agentPresence.currentAgent = p.agent) (hevents : p.events = [e])
      (hagent : e.agent = p.agent) (hreported : p.task.foregroundShellExitReported = false)
  | givesUp (haction : t.action k ≠ .reportProcessExit) (hgives : t.GivesUp k)
      (hcurrent : p.task.agentPresence.currentAgent = none) (hagent : p.agent = none)
      (hchanged : p.changed = true) (hevents : p.events = [])
      (hgrace : p.task.agentStartupGraceUntil = none)
      (hreported : p.task.foregroundShellExitReported = false)

lemma noteProbe_keeps (loop : DetectionLoop) (t : DetectionTask) (k : Tick) (had changed : Bool) :
    let t' := t.noteProbe loop k had changed
    t'.agentPresence = t.agentPresence ∧
      t'.pendingForegroundShellClear = t.pendingForegroundShellClear ∧
      t'.foregroundShellExitReported = t.foregroundShellExitReported := by
  dsimp only
  unfold noteProbe
  split
  · exact ⟨rfl, rfl, rfl⟩
  · split <;> exact ⟨rfl, rfl, rfl⟩

lemma action_reportProcessExit (haction : t.action k = .reportProcessExit) :
    t.agentPresence.currentAgent ≠ none ∧ t.foregroundShellExitReported = false := by
  unfold action foregroundShellAgentAction at haction
  split_ifs at haction with hobserve hreported hshell
  rw [Bool.or_eq_true, not_or] at hobserve
  refine ⟨fun hnone => hobserve.1 (hnone ▸ rfl), ?_⟩
  exact Bool.eq_false_iff.mpr hreported

lemma action_clearAgent (haction : t.action k = .clearAgent) :
    t.agentPresence.currentAgent ≠ none ∧ t.foregroundShellExitReported = true := by
  unfold action foregroundShellAgentAction at haction
  split_ifs at haction with hobserve hreported hshell
  rw [Bool.or_eq_true, not_or] at hobserve
  exact ⟨fun hnone => hobserve.1 (hnone ▸ rfl), hreported⟩

/-- Observing a probe says whether it has changed the agent. -/
lemma observeProcessProbe_cases (p : AgentDetectionPresence) (newAgent : Option Agent) :
    (p.observeProcessProbe newAgent).2 = true ∧
        (p.observeProcessProbe newAgent).1.currentAgent ≠ p.currentAgent ∨
      (p.observeProcessProbe newAgent).2 = false ∧
        (p.observeProcessProbe newAgent).1.currentAgent = p.currentAgent := by
  cases newAgent with
  | some agent =>
    unfold AgentDetectionPresence.observeProcessProbe
    dsimp only
    split_ifs with hsame
    · exact .inr ⟨rfl, rfl⟩
    · exact .inl ⟨rfl, hsame⟩
  | none =>
    unfold AgentDetectionPresence.observeProcessProbe
    dsimp only
    split_ifs with hnone hmisses
    · exact .inr ⟨rfl, rfl⟩
    · exact .inr ⟨rfl, rfl⟩
    · refine .inl ⟨rfl, fun hsame => ?_⟩
      change none = p.currentAgent at hsame
      rw [← hsame] at hnone
      exact hnone rfl

lemma probe_unchanged {acted : DetectionTask}
    (htaken : (t.startProbe k).takeAction k = (acted, false)) :
    t.probe loop k = ⟨acted.noteProbe loop k t.hasProcessProbe
      (foregroundGroupChanged k.foregroundPgid t.lastForegroundPgid), some (t.action k),
      t.agentPresence.currentAgent, false, []⟩ := by
  unfold probe
  dsimp only
  rw [htaken]
  rfl

lemma probe_changed (loop : DetectionLoop) {acted : DetectionTask}
    (htaken : (t.startProbe k).takeAction k = (acted, true))
    (hne : acted.agentPresence.currentAgent ≠ t.agentPresence.currentAgent) :
    ∃ noted, noted = acted.noteProbe loop k t.hasProcessProbe
        (foregroundGroupChanged k.foregroundPgid t.lastForegroundPgid) ∧
      t.probe loop k = ⟨(noted.changeAgent acted.agentPresence.currentAgent k.now).1,
        some (t.action k), acted.agentPresence.currentAgent, true,
        (noted.changeAgent acted.agentPresence.currentAgent k.now).2⟩ := by
  refine ⟨_, rfl, ?_⟩
  obtain ⟨hpresence, -, -⟩ := noteProbe_keeps loop acted k t.hasProcessProbe
    (foregroundGroupChanged k.foregroundPgid t.lastForegroundPgid)
  unfold probe
  dsimp only
  rw [htaken]
  dsimp only
  rw [if_pos rfl, hpresence, if_pos]
  rw [Bool.true_and]
  exact decide_eq_true hne

lemma action_probe (t : DetectionTask) (k : Tick) :
    (t.probe loop k).action = some (t.action k) := by
  unfold probe
  dsimp only
  generalize (if ((t.startProbe k).takeAction k).2 = true then _ else _) = agent
  split <;> rfl

lemma changeAgent_some (t : DetectionTask) (a : Agent) (now : Millis) :
    (t.changeAgent (some a) now).1.agentPresence = t.agentPresence ∧
      (t.changeAgent (some a) now).1.foregroundShellExitReported =
        t.foregroundShellExitReported ∧
      (t.changeAgent (some a) now).2 = [⟨some a, .idle, false, false, false, now⟩] :=
  ⟨rfl, rfl, rfl⟩

lemma changeAgent_none (t : DetectionTask) (now : Millis) :
    (t.changeAgent none now).1.agentPresence = t.agentPresence ∧
      (t.changeAgent none now).1.foregroundShellExitReported = t.foregroundShellExitReported ∧
      (t.changeAgent none now).1.agentStartupGraceUntil = none ∧
      (t.changeAgent none now).2 = [] :=
  ⟨rfl, rfl, rfl, rfl⟩

lemma clearCurrentAgent_of_some {p : AgentDetectionPresence} (hsome : p.currentAgent ≠ none) :
    p.clearCurrentAgent = (⟨none, 0⟩, true) := by
  unfold AgentDetectionPresence.clearCurrentAgent
  refine if_neg fun hnone => hsome ?_
  exact Option.isNone_iff_eq_none.mp hnone

/-- The agent has been taken away. -/
lemma probeCase_givesUp {acted : DetectionTask}
    (htaken : (t.startProbe k).takeAction k = (acted, true))
    (haction : t.action k ≠ .reportProcessExit) (hgives : t.GivesUp k)
    (hcurrent : acted.agentPresence.currentAgent = none)
    (hreported : acted.foregroundShellExitReported = false) :
    t.ProbeCase k (t.probe loop k) := by
  obtain ⟨noted, hnoted, hprobe⟩ := probe_changed loop htaken
    (hcurrent ▸ hgives.1.symm)
  obtain ⟨hpresence, -, hkept⟩ := noteProbe_keeps loop acted k t.hasProcessProbe
    (foregroundGroupChanged k.foregroundPgid t.lastForegroundPgid)
  obtain ⟨hpresence', hkept', hgrace, hevents⟩ := changeAgent_none noted k.now
  rw [← hnoted] at hpresence hkept
  rw [hcurrent] at hprobe
  rw [hprobe]
  refine .givesUp haction hgives ?_ rfl rfl hevents hgrace ?_
  · exact (congrArg AgentDetectionPresence.currentAgent (hpresence'.trans hpresence)).trans hcurrent
  · exact hkept'.trans (hkept.trans hreported)

/-- Another agent has been found. -/
lemma probeCase_finds {acted : DetectionTask} {a : Agent}
    (htaken : (t.startProbe k).takeAction k = (acted, true)) (haction : t.action k = .observeProbe)
    (hgives : ¬t.GivesUp k) (hcurrent : acted.agentPresence.currentAgent = some a)
    (hne : some a ≠ t.agentPresence.currentAgent)
    (hreported : acted.foregroundShellExitReported = false) :
    t.ProbeCase k (t.probe loop k) := by
  obtain ⟨noted, hnoted, hprobe⟩ := probe_changed loop htaken (hcurrent ▸ hne)
  obtain ⟨hpresence, -, hkept⟩ := noteProbe_keeps loop acted k t.hasProcessProbe
    (foregroundGroupChanged k.foregroundPgid t.lastForegroundPgid)
  obtain ⟨hpresence', hkept', hevents⟩ := changeAgent_some noted a k.now
  rw [← hnoted] at hpresence hkept
  rw [hcurrent] at hprobe
  rw [hprobe]
  refine .finds haction hgives _ ?_ hevents rfl ?_
  · exact (congrArg AgentDetectionPresence.currentAgent (hpresence'.trans hpresence)).trans hcurrent
  · exact hkept'.trans (hkept.trans hreported)

lemma takeAction_reportProcessExit (h : t.action k = .reportProcessExit) :
    t.takeAction k = ({ t with pendingForegroundShellClear := true }, false) := by
  unfold takeAction
  rw [h]

lemma takeAction_clearAgent (h : t.action k = .clearAgent) :
    t.takeAction k = ({ t with
      pendingForegroundShellClear := false
      foregroundShellExitReported := false
      agentPresence := ⟨none, 0⟩ }, true) := by
  obtain ⟨hsome, -⟩ := action_clearAgent h
  unfold takeAction
  rw [h]
  dsimp only
  rw [clearCurrentAgent_of_some hsome]

lemma takeAction_observeProbe (h : t.action k = .observeProbe) :
    t.takeAction k = ({ t with
      pendingForegroundShellClear := false
      foregroundShellExitReported := false
      agentPresence := (t.agentPresence.observeProcessProbe k.newAgent).1 },
      (t.agentPresence.observeProcessProbe k.newAgent).2) := by
  unfold takeAction
  rw [h]

lemma probe_cases (loop : DetectionLoop) (t : DetectionTask) (k : Tick) :
    t.ProbeCase k (t.probe loop k) := by
  cases haction : t.action k with
  | reportProcessExit =>
    obtain ⟨hsome, hreported⟩ := action_reportProcessExit haction
    obtain ⟨hpresence, hpending, hkept⟩ := noteProbe_keeps loop
      { t.startProbe k with pendingForegroundShellClear := true } k t.hasProcessProbe
      (foregroundGroupChanged k.foregroundPgid t.lastForegroundPgid)
    rw [probe_unchanged (takeAction_reportProcessExit haction)]
    exact .exits haction hsome hpresence rfl rfl hpending (hkept.trans hreported)
  | clearAgent =>
    obtain ⟨hsome, -⟩ := action_clearAgent haction
    refine probeCase_givesUp (takeAction_clearAgent haction) ?_ ⟨hsome, .inl haction⟩ rfl rfl
    rw [haction]
    exact fun h => nomatch h
  | observeProbe =>
    have htaken := takeAction_observeProbe (t := t.startProbe k) haction
    have hgives : t.GivesUp k ↔ t.agentPresence.currentAgent ≠ none ∧
        (t.agentPresence.observeProcessProbe k.newAgent).1.currentAgent = none := by
      unfold GivesUp
      rw [haction]
      exact ⟨fun ⟨hsome, hor⟩ => ⟨hsome, (hor.resolve_left fun h => nomatch h).2⟩,
        fun ⟨hsome, hnone⟩ => ⟨hsome, .inr ⟨rfl, hnone⟩⟩⟩
    rcases observeProcessProbe_cases t.agentPresence k.newAgent with ⟨hchanged, hne⟩ | ⟨hkept, hsame⟩
    · cases hnew : (t.agentPresence.observeProcessProbe k.newAgent).1.currentAgent with
      | none =>
        refine probeCase_givesUp (htaken.trans (congrArg _ hchanged)) ?_ (hgives.mpr ⟨?_, hnew⟩)
          hnew rfl
        · rw [haction]
          exact fun h => nomatch h
        · rw [hnew] at hne
          exact hne.symm
      | some a =>
        refine probeCase_finds (htaken.trans (congrArg _ hchanged)) haction (fun hg => ?_) hnew
          (hnew ▸ hne) rfl
        rw [(hgives.mp hg).2] at hnew
        cases hnew
    · obtain ⟨hpresence, -, hreported⟩ := noteProbe_keeps loop { t.startProbe k with
        pendingForegroundShellClear := false
        foregroundShellExitReported := false
        agentPresence := (t.agentPresence.observeProcessProbe k.newAgent).1 } k t.hasProcessProbe
        (foregroundGroupChanged k.foregroundPgid t.lastForegroundPgid)
      rw [probe_unchanged (htaken.trans (congrArg _ hkept))]
      refine .keeps haction (fun hg => ?_) ?_ rfl rfl hreported
      · obtain ⟨hsome, hnone⟩ := hgives.mp hg
        exact hsome (hsame.symm.trans hnone)
      · exact (congrArg AgentDetectionPresence.currentAgent hpresence).trans hsame

end

end DetectionTask

/-! ### An iteration -/

section
variable {detectWithOsc : Agent → DetectionInput → AgentDetection} {loop : DetectionLoop}
  {decide : DetectionScreenReadInput → DetectionScreenReadDecision}

open DetectionTask

/-- An iteration is its probe and what follows it, with the screen as it is then read. -/
lemma iterate_eq (detectWithOsc : Agent → DetectionInput → AgentDetection)
    (decide : DetectionScreenReadInput → DetectionScreenReadDecision) (loop : DetectionLoop)
    (t : DetectionTask) (content : DetectionContent) (k : Tick) :
    ∃ groupChanged seq input r, input.screen = (content.screenRead k).input.screen ∧
      r = ((t.wake loop k).probeIfDue loop k).task.afterProbe detectWithOsc decide loop k
        ((t.wake loop k).probeIfDue loop k).agent ((t.wake loop k).probeIfDue loop k).changed
        groupChanged seq input ∧
      (iterate detectWithOsc decide loop t content k).task = r.1 ∧
      (iterate detectWithOsc decide loop t content k).events =
        ((t.wake loop k).probeIfDue loop k).events ++ r.2 := by
  refine ⟨_, _, _, _, ?_, rfl, rfl, rfl⟩
  dsimp only
  unfold DetectionContent.screenRead
  refine DetectionContent.change_screen (DetectionContent.change_screen ?_ _) _
  split <;> rfl

/-- An iteration publishes the exit it finds and the change of the agent exactly if it is not left
before. -/
lemma publishes_iff_heard (t : DetectionTask) (content : DetectionContent) (k : Tick) :
    (iterate detectWithOsc decideDetectionScreenRead loop t content k).PublishesExit ∧
        (iterate detectWithOsc decideDetectionScreenRead loop t content k).PublishesChange ↔
      t.Heard detectWithOsc loop content k := by
  obtain ⟨groupChanged, seq, input, r, hscreen, hr, htask, hevents⟩ :=
    iterate_eq detectWithOsc decideDetectionScreenRead loop t content k
  have haction : (iterate detectWithOsc decideDetectionScreenRead loop t content k).action =
      ((t.wake loop k).probeIfDue loop k).action := rfl
  have hprevious : (iterate detectWithOsc decideDetectionScreenRead loop t content
      k).previousAgent = (t.wake loop k).agentPresence.currentAgent := rfl
  unfold Iteration.PublishesExit Iteration.PublishesChange Heard
  rw [htask, hevents, haction, hprevious]
  dsimp only
  rw [← hscreen]
  generalize t.wake loop k = awake at hr ⊢
  have hrest : Publishes (awake.probeIfDue loop k).task (awake.probeIfDue loop k).agent r :=
    hr ▸ publishes_afterProbe
  rw [hrest.agentPresence]
  by_cases hdue : awake.shouldCheckProcess k = true
  · have hcases := probe_cases loop awake k
    have hprobed : awake.probeIfDue loop k = awake.probe loop k := if_pos hdue
    rw [hprobed] at hr hrest ⊢
    rw [action_probe, Option.some.injEq]
    refine (?_ : _ ↔ _).trans (forall_prop_of_true hdue).symm
    cases hcases with
    | exits haction hsome hpresence hagent hnone hpending hreported =>
      have hexited : (awake.probe loop k).task.processExited (awake.probe loop k).agent = true := by
        unfold processExited
        rw [hpending, hreported, hagent, Option.isSome_iff_ne_none.mpr hsome]
        rfl
      obtain ⟨hleft, hpublished⟩ := afterProbe_exited hr hexited
      rw [skipsStateUpdate_exited, hagent] at hleft hpublished
      rw [hpresence, hnone, List.nil_append]
      refine ⟨fun ⟨hexit, _⟩ => ⟨fun hloop _ => ?_, fun _ hgives => ?_⟩,
        fun ⟨hheard, _⟩ => ⟨fun _ => ?_, fun h => absurd rfl h⟩⟩
      · refine Bool.eq_false_iff.mpr fun hskips => ?_
        obtain ⟨e, he, -⟩ := hexit haction
        rw [hleft (by rw [hloop, hskips]; rfl)] at he
        cases he
      · rcases hgives.2 with hclear | ⟨hobserve, -⟩
        · cases haction.symm.trans hclear
        · cases haction.symm.trans hobserve
      · refine hpublished (Bool.eq_false_iff.mpr fun hskips => ?_)
        obtain ⟨hloop, hscreens⟩ := (Bool.and_eq_true _ _).mp hskips
        rw [hheard (of_decide_eq_true hloop) haction] at hscreens
        cases hscreens
    | keeps haction hgives hcurrent hagent hnone hreported =>
      rw [haction]
      exact ⟨fun _ => ⟨fun _ h => (nomatch h), fun _ => hgives⟩,
        fun _ => ⟨fun h => (nomatch h), fun h => absurd hcurrent h⟩⟩
    | finds haction hgives e hcurrent hnone hagent hreported =>
      rw [haction, hnone, hcurrent]
      refine ⟨fun _ => ⟨fun _ h => (nomatch h), fun _ => hgives⟩,
        fun _ => ⟨fun h => (nomatch h), fun _ => ⟨List.cons_ne_nil e r.2, fun e' he' => ?_⟩⟩⟩
      rcases List.mem_cons.mp he' with hfirst | hlater
      · rw [hfirst]
        exact hagent
      · exact hrest.agents e' hlater
    | givesUp haction hgives hcurrent hagent hchanged hnone hgrace hreported =>
      rw [hagent, hchanged] at hr
      obtain ⟨hleft, hpublished⟩ := afterProbe_gone hr hgrace
      rw [hnone, hcurrent, List.nil_append]
      refine ⟨fun ⟨_, hchange⟩ => ⟨fun _ h => absurd h haction, fun hactive => ?_⟩,
        fun ⟨_, hheard⟩ => ⟨fun h => absurd h haction, fun _ => ⟨hpublished ?_, fun e he => ?_⟩⟩⟩
      · exact absurd (hleft hactive) (hchange hgives.1.symm).1
      · exact Bool.eq_false_iff.mpr fun hactive => hheard hactive hgives
      · rw [← hagent]
        exact hrest.agents e he
  · have hprobed : awake.probeIfDue loop k = ⟨awake, none, awake.agentPresence.currentAgent, false,
        []⟩ :=
      if_neg hdue
    rw [hprobed]
    refine ⟨fun _ h => absurd h hdue, fun _ => ⟨fun h => (nomatch h), fun h => absurd rfl h⟩⟩

/-! ### All iterations -/

/-- An exit that has been reported has been published. -/
def ExitReported (t : DetectionTask) (past : List Iteration) : Prop :=
  t.foregroundShellExitReported = true →
    ∃ a, t.agentPresence.currentAgent = some a ∧ ExitPublished past a

lemma ExitReported.wake {t : DetectionTask} {past : List Iteration} (h : ExitReported t past)
    (k : Tick) : ExitReported (t.wake loop k) past := by
  intro hreported
  cases hreset : k.reset with
  | none =>
    have hkept : (t.wake loop k).foregroundShellExitReported = t.foregroundShellExitReported ∧
        (t.wake loop k).agentPresence = t.agentPresence := by
      unfold DetectionTask.wake
      rw [hreset]
      dsimp only
      split <;> exact ⟨rfl, rfl⟩
    rw [hkept.1] at hreported
    rw [hkept.2]
    exact h hreported
  | some at' =>
    have hnone : (t.wake loop k).foregroundShellExitReported = false := by
      unfold DetectionTask.wake
      rw [hreset]
      dsimp only
      split <;> rfl
    rw [hnone] at hreported
    cases hreported

/-- The probe forgets what has been reported, or has not been made. -/
lemma probeIfDue_reported (loop : DetectionLoop) (t : DetectionTask) (k : Tick) :
    (t.probeIfDue loop k).agent = (t.probeIfDue loop k).task.agentPresence.currentAgent ∧
      ((t.probeIfDue loop k).task.foregroundShellExitReported = true →
        t.foregroundShellExitReported = true ∧
          (t.probeIfDue loop k).task.agentPresence = t.agentPresence) := by
  unfold probeIfDue
  split
  · cases probe_cases loop t k with
    | exits _ _ hpresence hagent _ _ hreported =>
      refine ⟨hagent.trans (congrArg _ hpresence).symm, fun h => ?_⟩
      rw [hreported] at h
      cases h
    | keeps _ _ hcurrent hagent _ hreported =>
      refine ⟨hagent.trans hcurrent.symm, fun h => ?_⟩
      rw [hreported] at h
      cases h
    | finds _ _ _ hcurrent _ _ hreported =>
      refine ⟨hcurrent.symm, fun h => ?_⟩
      rw [hreported] at h
      cases h
    | givesUp _ _ hcurrent hagent _ _ _ hreported =>
      refine ⟨hagent.trans hcurrent.symm, fun h => ?_⟩
      rw [hreported] at h
      cases h
  · exact ⟨rfl, fun h => ⟨h, rfl⟩⟩

lemma ExitReported.iterate {t : DetectionTask} {past : List Iteration} (h : ExitReported t past)
    (detectWithOsc : Agent → DetectionInput → AgentDetection)
    (decide : DetectionScreenReadInput → DetectionScreenReadDecision) (loop : DetectionLoop)
    (content : DetectionContent) (k : Tick) :
    ExitReported (iterate detectWithOsc decide loop t content k).task
      (past ++ [iterate detectWithOsc decide loop t content k]) := by
  intro hreported
  obtain ⟨groupChanged, seq, input, r, -, hr, htask, hevents⟩ :=
    iterate_eq detectWithOsc decide loop t content k
  obtain ⟨hagent, hkept⟩ := probeIfDue_reported loop (t.wake loop k) k
  have hrest : Publishes ((t.wake loop k).probeIfDue loop k).task
      ((t.wake loop k).probeIfDue loop k).agent r :=
    hr ▸ publishes_afterProbe
  rw [htask] at hreported ⊢
  rw [hrest.agentPresence]
  rcases hrest.reported hreported with hbefore | ⟨hsome, e, he, hexit⟩
  · obtain ⟨hawake, hpresence⟩ := hkept hbefore
    obtain ⟨a, hcurrent, before, i, after, hpast, hpublished, hsince⟩ := h.wake k hawake
    refine ⟨a, hpresence ▸ hcurrent, before, i, after ++
      [Ork3.Pane.iterate detectWithOsc decide loop t content k], ?_, hpublished, fun j hj => ?_⟩
    · rw [hpast, List.append_assoc, List.cons_append]
    · rw [← List.cons_append] at hj
      rcases List.mem_append.mp hj with hold | hnew
      · exact hsince j hold
      · rw [List.mem_singleton.mp hnew, htask, hrest.agentPresence, hpresence]
        exact hcurrent
  · obtain ⟨a, ha⟩ := Option.ne_none_iff_exists'.mp hsome
    have hcurrent := hagent.symm.trans ha
    refine ⟨a, hcurrent, past, _, [], rfl, ⟨e, ?_, hexit, (hrest.agents e he).trans ha⟩,
      fun j hj => ?_⟩
    · rw [hevents]
      exact List.mem_append_right _ he
    · rw [List.mem_singleton.mp hj, htask, hrest.agentPresence]
      exact hcurrent

lemma exitReported_afterIterations (ks : List Tick) {t : DetectionTask}
    {content : DetectionContent} {past : List Iteration} (h : ExitReported t past) :
    ExitReported (afterIterations detectWithOsc decide loop t content ks).1
      (past ++ iterations detectWithOsc decide loop t content ks) := by
  induction ks generalizing t content past with
  | nil => exact (List.append_nil past).symm ▸ h
  | cons k ks ih =>
    have hnext := h.iterate detectWithOsc decide loop content k
    have hlast := @ih _ (Ork3.Pane.iterate detectWithOsc decide loop t content k).content _ hnext
    rw [List.append_assoc] at hlast
    exact hlast

end

/-- Every iteration publishes the exit and the change of agent that its probe finds exactly if it is
not left before, and an agent is cleared only after its exit has been published. -/
theorem exits_published (detectWithOsc : Agent → DetectionInput → AgentDetection)
    (loop : DetectionLoop) (detectedAgent : Option Agent) (now : Millis)
    (content : DetectionContent) (ks : List Tick) (k : Tick) :
    let start := DetectionTask.start loop detectedAgent now
    let past := iterations detectWithOsc decideDetectionScreenRead loop start content ks
    let s := afterIterations detectWithOsc decideDetectionScreenRead loop start content ks
    let i := iterate detectWithOsc decideDetectionScreenRead loop s.1 s.2 k
    (i.PublishesExit ∧ i.PublishesChange ↔ s.1.Heard detectWithOsc loop s.2 k) ∧
      (i.action = some .clearAgent →
        ∃ a, i.previousAgent = some a ∧ ExitPublished past a) := by
  intro start past s i
  refine ⟨publishes_iff_heard s.1 s.2 k, fun haction => ?_⟩
  have hstart : ExitReported start [] := fun hreported => nomatch hreported
  have hs : ExitReported s.1 past := exitReported_afterIterations ks hstart
  have hprobed : ((s.1.wake loop k).probeIfDue loop k).action = some .clearAgent := haction
  unfold DetectionTask.probeIfDue at hprobed
  split at hprobed
  · rw [DetectionTask.action_probe] at hprobed
    obtain ⟨-, hreported⟩ := DetectionTask.action_clearAgent (Option.some.inj hprobed)
    exact hs.wake k hreported
  · cases hprobed

/-- Claude Code's transcript viewer, whose rule leaves the state alone. -/
def transcriptViewer : DetectionContent :=
  ⟨⟨"showing detailed transcript (ctrl+o to toggle)", "", ""⟩, 0⟩

def detectTranscriptViewer (_ : Agent) (input : DetectionInput) : AgentDetection :=
  if input.screen = transcriptViewer.input.screen then ⟨.unknown, true, false, false, false⟩
  else ⟨.idle, false, false, false, false⟩

/-- The pane's shell is in the foreground again. -/
def shellTick (now : Millis) (fullLifecycleAuthorityActive : Bool) : Tick where
  reset := none
  now := now
  pendingRelease := none
  pid := 1
  fullLifecycleAuthorityActive := fullLifecycleAuthorityActive
  foregroundProcessGroupId := some 1
  probe := ⟨some 1, true, none⟩
  beforeProbe := []
  beforeSeq := []
  beforeText := []
  beforeTitle := []
  beforeProgress := []

/-- The exit of a restored agent at a screen that leaves the state alone, and an agent cleared while
a lifecycle authority is active. -/
theorem exit_unpublished :
    (let i := iterate detectTranscriptViewer decideDetectionScreenRead .spawnCommandBuilder
      (.start .spawnCommandBuilder (some .claude) 0) transcriptViewer (shellTick 50 false)
    i.action = some .reportProcessExit ∧ i.previousAgent = some .claude ∧ i.events = []) ∧
    let s := afterIterations detectTranscriptViewer decideDetectionScreenRead .spawnCommandBuilder
      (.start .spawnCommandBuilder (some .claude) 0) ⟨⟨"$", "", ""⟩, 0⟩ [shellTick 50 true]
    let i := iterate detectTranscriptViewer decideDetectionScreenRead .spawnCommandBuilder s.1 s.2
      (shellTick 350 true)
    i.action = some .clearAgent ∧ i.previousAgent = some .claude ∧
      i.task.agentPresence.currentAgent = none ∧ i.events = [] := by
  decide +kernel

/-- The other loop publishes the exit on the same screen. -/
example : (iterate detectTranscriptViewer decideDetectionScreenRead .spawnBasicDetectionTask
    { DetectionTask.start .spawnCommandBuilder (some .claude) 0 with pendingRestoreProbe := true }
    transcriptViewer (shellTick 50 false)).events =
    [⟨some .claude, .idle, false, false, true, 50⟩] := by
  decide +kernel

end Ork3.Pane
