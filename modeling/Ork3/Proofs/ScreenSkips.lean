import Ork3.Proofs.AgentExits

/-!
# Skipping an unchanged screen

A loop that skips the screen of an idle agent whose content counter has not moved publishes what the
loop that reads every screen publishes, unless it took the state of a process exit for the state of
the screen, or the screen changes while an iteration that skips it would have read it.
-/

namespace Ork3.Pane

open Ork3.Terminal (Agent AgentState)

/-- The loop that never skips a screen. -/
def alwaysRead (_ : DetectionScreenReadInput) : DetectionScreenReadDecision := .read

/-- The screen when the iteration loads the content counter. -/
def DetectionContent.atSeq (content : DetectionContent) (k : Tick) : DetectionContent :=
  (content.change k.beforeProbe).change k.beforeSeq

namespace DetectionTask

section
variable (detectWithOsc : Agent → DetectionInput → AgentDetection) (loop : DetectionLoop)

/-- A scan of the screen publishes nothing new. -/
def Quiet (t : DetectionTask) (agent : Option Agent) (input : DetectionInput) : Prop :=
  shouldSkipStateUpdate detectWithOsc agent input.screen = true ∨
    (detectAgentWithOsc detectWithOsc agent input).skipStateUpdate = true ∨
    (detectAgentWithOsc detectWithOsc agent input).publishState = t.published

/-- The iteration comes to the screen and skips it. -/
def Skips (t : DetectionTask) (content : DetectionContent) (k : Tick) : Prop :=
  let p := (t.wake loop k).probeIfDue loop k
  k.fullLifecycleAuthorityActive = false ∧ p.task.agentStartupGraceUntil = none ∧
    decideDetectionScreenRead ⟨p.task.state, p.agent, p.task.pendingIdle.active, p.changed,
      p.task.processExited p.agent, some (content.atSeq k).detectionContentSeq,
      p.task.lastScreenScanDetectionContentSeq⟩ = .skip

/-- After an exit has been reported the next probe does not find the same agent at the same content
again, unless the screen reads as what was published; and a screen that is skipped does not change
while it would have been read. -/
def Unhidden (t : DetectionTask) (content : DetectionContent) (k : Tick) : Prop :=
  let awake := t.wake loop k
  (awake.foregroundShellExitReported = true →
    (0 < k.pid ∧ k.newAgent ≠ awake.agentPresence.currentAgent) ∨
      awake.lastScreenScanDetectionContentSeq ≠ some (content.atSeq k).detectionContentSeq ∨
      awake.Quiet detectWithOsc awake.agentPresence.currentAgent (content.atSeq k).input) ∧
  (t.Skips loop content k → k.beforeText = [] ∧ k.beforeTitle = [] ∧ k.beforeProgress = [])

instance (t : DetectionTask) (agent : Option Agent) (input : DetectionInput) :
    Decidable (t.Quiet detectWithOsc agent input) :=
  inferInstanceAs (Decidable (_ ∨ _ ∨ _))

instance (t : DetectionTask) (content : DetectionContent) (k : Tick) :
    Decidable (t.Skips loop content k) :=
  inferInstanceAs (Decidable (_ ∧ _ ∧ _))

instance (t : DetectionTask) (content : DetectionContent) (k : Tick) :
    Decidable (t.Unhidden detectWithOsc loop content k) :=
  inferInstanceAs (Decidable ((_ → _ ∨ _ ∨ _) ∧ (_ → _ ∧ _ ∧ _)))

end

/-- The loops differ in the counter of the last scan only. -/
def setScan (t : DetectionTask) (scan : Option Nat) : DetectionTask :=
  { t with lastScreenScanDetectionContentSeq := scan }

section
variable {detectWithOsc : Agent → DetectionInput → AgentDetection} {loop : DetectionLoop}
  {t : DetectionTask} {k : Tick} {agent : Option Agent} {agentChanged processGroupChanged : Bool}
  {seq : Nat} {input : DetectionInput} {scan : Option Nat}

/-! ### What does not look at the last scan -/

lemma wake_setScan (loop : DetectionLoop) (t : DetectionTask) (k : Tick) (scan : Option Nat) :
    ∃ scan', (t.setScan scan).wake loop k = (t.wake loop k).setScan scan' := by
  cases hreset : k.reset with
  | none =>
    refine ⟨scan, ?_⟩
    unfold wake setScan
    rw [hreset]
    dsimp only
    split_ifs <;> rfl
  | some at' =>
    refine ⟨none, ?_⟩
    unfold wake setScan
    rw [hreset]
    dsimp only
    split_ifs <;> rfl

lemma takeAction_setScan (t : DetectionTask) (k : Tick) (scan : Option Nat) :
    (t.setScan scan).takeAction k = ((t.takeAction k).1.setScan scan, (t.takeAction k).2) := by
  have haction : (t.setScan scan).action k = t.action k := rfl
  unfold takeAction
  rw [haction]
  cases t.action k <;> rfl

lemma noteProbe_setScan (loop : DetectionLoop) (t : DetectionTask) (k : Tick)
    (had changed : Bool) (scan : Option Nat) : (t.setScan scan).noteProbe loop k had changed =
      (t.noteProbe loop k had changed).setScan scan := by
  unfold noteProbe
  split
  · rfl
  · have hpresence : (t.setScan scan).agentPresence = t.agentPresence := rfl
    rw [hpresence]
    split <;> rfl

lemma changeAgent_setScan (t : DetectionTask) (agent : Option Agent) (now : Millis)
    (scan : Option Nat) : (t.setScan scan).changeAgent agent now = t.changeAgent agent now := by
  unfold changeAgent
  dsimp only
  split <;> rfl

lemma takeAction_changes {acted : DetectionTask} (h : t.takeAction k = (acted, true)) :
    acted.agentPresence.currentAgent ≠ t.agentPresence.currentAgent := by
  cases haction : t.action k with
  | reportProcessExit =>
    rw [takeAction_reportProcessExit haction] at h
    cases h
  | clearAgent =>
    obtain ⟨hsome, -⟩ := action_clearAgent haction
    rw [takeAction_clearAgent haction] at h
    cases h
    exact hsome.symm
  | observeProbe =>
    rw [takeAction_observeProbe haction, Prod.mk.injEq] at h
    obtain ⟨rfl, hchanged⟩ := h
    rcases observeProcessProbe_cases t.agentPresence k.newAgent with ⟨-, hne⟩ | ⟨hkept, -⟩
    · exact hne
    · rw [hkept] at hchanged
      cases hchanged

lemma probe_setScan (loop : DetectionLoop) (t : DetectionTask) (k : Tick) (scan : Option Nat) :
    ∃ scan', (t.setScan scan).probe loop k =
      { t.probe loop k with task := (t.probe loop k).task.setScan scan' } := by
  have hsame := takeAction_setScan (t.startProbe k) k scan
  rcases htaken : (t.startProbe k).takeAction k with ⟨acted, changed⟩
  rw [htaken] at hsame
  have hnoted := noteProbe_setScan loop acted k t.hasProcessProbe
    (foregroundGroupChanged k.foregroundPgid t.lastForegroundPgid) scan
  cases changed with
  | false =>
    have hscanned : (t.setScan scan).probe loop k =
        ⟨(acted.setScan scan).noteProbe loop k t.hasProcessProbe
          (foregroundGroupChanged k.foregroundPgid t.lastForegroundPgid), some (t.action k),
          t.agentPresence.currentAgent, false, []⟩ :=
      probe_unchanged hsame
    rw [hscanned, hnoted, probe_unchanged htaken]
    exact ⟨scan, rfl⟩
  | true =>
    have hne := @takeAction_changes (t.startProbe k) k acted htaken
    have hsame' : ((t.setScan scan).startProbe k).takeAction k = (acted.setScan scan, true) := hsame
    obtain ⟨noted, hnoted', hprobe⟩ := probe_changed loop htaken hne
    obtain ⟨scanned, hscanned, hprobe'⟩ := probe_changed loop hsame' hne
    have hsetScan : scanned = noted.setScan scan := by
      rw [hscanned, hnoted']
      exact hnoted
    have hchange := changeAgent_setScan noted acted.agentPresence.currentAgent k.now scan
    rw [hprobe', hprobe, hsetScan]
    refine ⟨(noted.changeAgent acted.agentPresence.currentAgent
      k.now).1.lastScreenScanDetectionContentSeq, ?_⟩
    change (⟨((noted.setScan scan).changeAgent acted.agentPresence.currentAgent k.now).1, _, _, _,
      ((noted.setScan scan).changeAgent acted.agentPresence.currentAgent k.now).2⟩ : Probed) = _
    rw [hchange]
    rfl

lemma probeIfDue_setScan (loop : DetectionLoop) (t : DetectionTask) (k : Tick)
    (scan : Option Nat) : ∃ scan', (t.setScan scan).probeIfDue loop k =
      { t.probeIfDue loop k with task := (t.probeIfDue loop k).task.setScan scan' } := by
  have hdue : (t.setScan scan).shouldCheckProcess k = t.shouldCheckProcess k := rfl
  unfold probeIfDue
  rw [hdue]
  split
  · exact probe_setScan loop t k scan
  · exact ⟨scan, rfl⟩

/-! ### Reading the screen -/

/-- A screen that is read is read alike, whatever was scanned last. -/
lemma readScreen_of_read {decide : DetectionScreenReadInput → DetectionScreenReadDecision}
    (t : DetectionTask) (scan : Option Nat)
    (hread : decide ⟨t.state, agent, t.pendingIdle.active, agentChanged, t.processExited agent,
      if agent.isSome then some seq else none, t.lastScreenScanDetectionContentSeq⟩ = .read) :
    (t.setScan scan).readScreen detectWithOsc alwaysRead loop k agent agentChanged
        processGroupChanged seq input =
      t.readScreen detectWithOsc decide loop k agent agentChanged processGroupChanged seq input := by
  unfold readScreen
  dsimp only
  rw [hread]
  rfl

lemma shouldSkipIdleScreenScan_spec {i : DetectionScreenReadInput}
    (h : decideDetectionScreenRead i = .skip) :
    i.state = .idle ∧ i.agent.isSome = true ∧ i.pendingIdleActive = false ∧
      i.agentChanged = false ∧ i.processExited = false ∧
      i.lastScreenScanDetectionContentSeq = i.currentDetectionContentSeq := by
  have hskip : shouldSkipIdleScreenScan i = true := by
    by_contra hread
    unfold decideDetectionScreenRead at h
    rw [if_neg hread] at h
    cases h
  unfold shouldSkipIdleScreenScan at hskip
  split at hskip
  case isTrue => cases hskip
  case isFalse hguard =>
    simp only [Bool.or_eq_true, not_or, decide_eq_true_eq, Bool.not_eq_true, not_not,
      Option.isNone_eq_false_iff] at hguard
    obtain ⟨⟨⟨⟨hidle, hsome⟩, hpending⟩, hchanged⟩, hexited⟩ := hguard
    exact ⟨hidle, hsome, hpending, hchanged, hexited,
      of_decide_eq_true ((Bool.and_eq_true _ _).mp hskip).2⟩

/-- What is published of an idle state is not published again. -/
lemma decideScreenDetectionPublish_same {previous : DetectionPublishState}
    {refresh : Option Millis} {detection : AgentDetection} {now : Millis}
    (hidle : previous.state = .idle) (hsame : detection.publishState = previous) :
    decideScreenDetectionPublish previous refresh detection false false now .clear =
      (.clear, none) := by
  have hblocker : previous.visibleBlocker = false := by
    rw [← hsame] at hidle ⊢
    change detection.state = .idle at hidle
    unfold AgentDetection.publishState
    dsimp only
    rw [hidle]
    exact Bool.and_false _
  have hhold : PendingIdleConfirmation.clear.shouldHoldWorkingToIdle previous previous false false
      now = (.clear, false) := by
    unfold PendingIdleConfirmation.shouldHoldWorkingToIdle
    rw [hidle]
    rfl
  have hpublish : shouldPublishDetectionUpdate previous previous false false
      (stableVisibleSignalRefreshDue previous previous refresh now) = false := by
    unfold shouldPublishDetectionUpdate
    simp [hblocker]
  unfold decideScreenDetectionPublish
  dsimp only
  rw [hsame, hhold, hpublish]
  rfl

lemma publishScreen_nothing {exited : Bool} {detection : AgentDetection}
    (hdetection : detectionUpdateForPublishWithOsc detectWithOsc agent input exited =
      some detection)
    (hnothing : decideScreenDetectionPublish t.published t.lastVisibleSignalRefresh detection exited
      agentChanged k.now t.pendingIdle = (.clear, none)) :
    t.publishScreen detectWithOsc k agent agentChanged exited input = (t.clearPendingIdle, []) := by
  unfold publishScreen
  rw [hdetection]
  dsimp only
  rw [hnothing]
  rfl

/-- A scan that publishes nothing new leaves the loop as it was. -/
lemma readScreen_of_skip (t : DetectionTask) (scan : Option Nat)
    (hskip : decideDetectionScreenRead ⟨t.state, agent, t.pendingIdle.active, agentChanged,
      t.processExited agent, if agent.isSome then some seq else none,
      t.lastScreenScanDetectionContentSeq⟩ = .skip)
    (hagent : agent = t.agentPresence.currentAgent) (htext : t.lastDetectionText = input.screen)
    (hpending : t.pendingIdle.active = false → t.pendingIdle = .clear)
    (hquiet : t.Quiet detectWithOsc agent input) :
    (t.setScan scan).readScreen detectWithOsc alwaysRead loop k agent agentChanged
        processGroupChanged seq input =
      (t.setScan (if agent.isSome then some seq else none), []) := by
  obtain ⟨hidle, hsome, hactive, hchanged, hexited, -⟩ := shouldSkipIdleScreenScan_spec hskip
  dsimp only at hidle hsome hactive hchanged hexited
  have hclear := hpending hactive
  have hsync (s : DetectionTask) (hs : s.agentPresence = t.agentPresence)
      (suppressed : Option Agent) (changed contentChanged : Bool) (now : Millis) :
      s.syncContentChangeAcquisition suppressed changed contentChanged now = s := by
    unfold syncContentChangeAcquisition
    rw [hs, ← hagent, hsome]
    rfl
  have hcleared (currentSeq : Option Nat) : clearPendingIdle { t with
      lastScreenScanDetectionContentSeq := currentSeq
      lastDetectionText := input.screen } = t.setScan currentSeq := by
    unfold clearPendingIdle setScan
    rw [← hclear, ← htext]
  generalize hcurrent : (if agent.isSome then some seq else none) = currentSeq at hcleared ⊢
  have hexited' : (t.setScan scan).processExited agent = false := hexited
  unfold readScreen
  rw [hexited', hcurrent]
  dsimp only [alwaysRead]
  split
  · exact Prod.ext (hcleared currentSeq) rfl
  · next hskips =>
    have hleft : shouldSkipStateUpdate detectWithOsc agent input.screen = false := by
      cases loop <;> exact Bool.eq_false_iff.mpr hskips
    have hquiet' := hquiet.resolve_left fun hrule => by
      rw [hleft] at hrule
      cases hrule
    have hpublished : publishScreen detectWithOsc { t with
        lastScreenScanDetectionContentSeq := currentSeq
        lastDetectionText := input.screen } k agent false false input =
        (t.setScan currentSeq, []) := by
      rw [← hcleared currentSeq]
      by_cases hskipped : (detectAgentWithOsc detectWithOsc agent input).skipStateUpdate = true
      · have hnone : detectionUpdateForPublishWithOsc detectWithOsc agent input false = none :=
          if_pos hskipped
        unfold publishScreen
        rw [hnone]
      · have hsome' : detectionUpdateForPublishWithOsc detectWithOsc agent input false =
            some (detectAgentWithOsc detectWithOsc agent input) :=
          if_neg hskipped
        refine publishScreen_nothing hsome' ?_
        dsimp only
        rw [hclear]
        exact decideScreenDetectionPublish_same hidle (hquiet'.resolve_left hskipped)
    have hsynced := hsync { t with
      lastScreenScanDetectionContentSeq := currentSeq
      lastDetectionText := input.screen } rfl k.suppressedAgent processGroupChanged
      (input.screen ≠ t.lastDetectionText) k.now
    rw [hchanged]
    exact (congrArg (fun s : DetectionTask =>
      s.publishScreen detectWithOsc k agent false false input) hsynced).trans hpublished

/-! ### What the last scan says -/

/-- The last scan at the present content says what a scan would say now. -/
structure Scanned (detectWithOsc : Agent → DetectionInput → AgentDetection) (t : DetectionTask)
    (c : DetectionContent) : Prop where
  bounded : ∀ n, t.lastScreenScanDetectionContentSeq = some n → n ≤ c.detectionContentSeq
  text : t.lastScreenScanDetectionContentSeq = some c.detectionContentSeq →
    t.lastDetectionText = c.input.screen
  quiet : t.lastScreenScanDetectionContentSeq = some c.detectionContentSeq → t.state = .idle →
    t.foregroundShellExitReported = false →
    t.Quiet detectWithOsc t.agentPresence.currentAgent c.input
  pendingIdle : t.pendingIdle.active = false → t.pendingIdle = .clear
  reported : t.foregroundShellExitReported = true →
    t.pendingForegroundShellClear = true ∧ t.agentPresence.currentAgent ≠ none

variable {t' : DetectionTask} {c c' : DetectionContent}

lemma change_seq (c : DetectionContent) (inputs : List DetectionInput) :
    (c.change inputs).detectionContentSeq = c.detectionContentSeq + inputs.length := by
  induction inputs generalizing c with
  | nil => rfl
  | cons input inputs ih =>
    refine (ih ⟨input, c.detectionContentSeq + 1⟩).trans ?_
    rw [List.length_cons]
    dsimp only
    omega

/-- A scan at an earlier content says nothing. -/
lemma Scanned.later (h : Scanned detectWithOsc t c)
    (hlater : c.detectionContentSeq < c'.detectionContentSeq) : Scanned detectWithOsc t c' := by
  have hother : t.lastScreenScanDetectionContentSeq ≠ some c'.detectionContentSeq := fun hn =>
    absurd (h.bounded _ hn) (Nat.not_le.mpr hlater)
  exact ⟨fun n hn => (h.bounded n hn).trans hlater.le, fun hn => absurd hn hother,
    fun hn => absurd hn hother, h.pendingIdle, h.reported⟩

lemma Scanned.change (h : Scanned detectWithOsc t c) (inputs : List DetectionInput) :
    Scanned detectWithOsc t (c.change inputs) := by
  cases inputs with
  | nil => exact h
  | cons input inputs =>
    refine h.later ?_
    rw [change_seq, List.length_cons]
    omega

/-- Where nothing has been scanned nothing is said. -/
lemma Scanned.of_none (hscan : t.lastScreenScanDetectionContentSeq = none)
    (hpending : t.pendingIdle = .clear) (hreported : t.foregroundShellExitReported = false) :
    Scanned detectWithOsc t c where
  bounded _ hn := nomatch hscan.symm.trans hn
  text hn := nomatch hscan.symm.trans hn
  quiet hn := nomatch hscan.symm.trans hn
  pendingIdle _ := hpending
  reported h := nomatch hreported.symm.trans h

/-- What the scan is about. -/
structure SameScan (t t' : DetectionTask) : Prop where
  scan : t'.lastScreenScanDetectionContentSeq = t.lastScreenScanDetectionContentSeq
  text : t'.lastDetectionText = t.lastDetectionText
  published : t'.published = t.published
  refresh : t'.lastVisibleSignalRefresh = t.lastVisibleSignalRefresh
  pendingIdle : t'.pendingIdle = t.pendingIdle

lemma SameScan.state (h : SameScan t t') : t'.state = t.state :=
  congrArg DetectionPublishState.state h.published

lemma Scanned.of_same (h : Scanned detectWithOsc t c) (hs : SameScan t t')
    (hcurrent : t'.agentPresence.currentAgent = t.agentPresence.currentAgent)
    (hquiet : t'.foregroundShellExitReported = false → t.foregroundShellExitReported = true →
      t.lastScreenScanDetectionContentSeq = some c.detectionContentSeq →
      t.Quiet detectWithOsc t.agentPresence.currentAgent c.input)
    (hreported : t'.foregroundShellExitReported = true → t.foregroundShellExitReported = true ∧
      t'.pendingForegroundShellClear = t.pendingForegroundShellClear) :
    Scanned detectWithOsc t' c where
  bounded n hn := h.bounded n (hs.scan ▸ hn)
  text hn := hs.text.trans (h.text (hs.scan ▸ hn))
  quiet hn hidle hr := by
    have hold : t.Quiet detectWithOsc t.agentPresence.currentAgent c.input := by
      cases hbefore : t.foregroundShellExitReported with
      | true => exact hquiet hr hbefore (hs.scan ▸ hn)
      | false => exact h.quiet (hs.scan ▸ hn) (hs.state ▸ hidle) hbefore
    unfold Quiet
    rw [hcurrent, hs.published]
    exact hold
  pendingIdle hactive := by
    rw [hs.pendingIdle] at hactive ⊢
    exact h.pendingIdle hactive
  reported hr := by
    obtain ⟨hbefore, hkept⟩ := hreported hr
    rw [hkept, hcurrent]
    exact h.reported hbefore

lemma Scanned.wake (h : Scanned detectWithOsc t c) (loop : DetectionLoop) (k : Tick) :
    Scanned detectWithOsc (t.wake loop k) c := by
  unfold DetectionTask.wake
  cases hreset : k.reset with
  | some at' =>
    dsimp only
    split <;> exact .of_none rfl rfl rfl
  | none =>
    have hsame (t' : DetectionTask) (hs : SameScan t t') (hp : t'.agentPresence = t.agentPresence)
        (hr : t'.foregroundShellExitReported = t.foregroundShellExitReported)
        (hc : t'.pendingForegroundShellClear = t.pendingForegroundShellClear) :
        Scanned detectWithOsc t' c := by
      refine h.of_same hs (congrArg _ hp) (fun hfalse htrue => ?_) fun htrue => ⟨hr ▸ htrue, hc⟩
      rw [hr, htrue] at hfalse
      cases hfalse
    dsimp only
    split <;> exact hsame _ ⟨rfl, rfl, rfl, rfl, rfl⟩ rfl rfl rfl

/-! ### The probe and the last scan -/

lemma sameScan_noteProbe (loop : DetectionLoop) (t : DetectionTask) (k : Tick)
    (had changed : Bool) : SameScan t (t.noteProbe loop k had changed) := by
  unfold noteProbe
  split
  · exact ⟨rfl, rfl, rfl, rfl, rfl⟩
  · split <;> exact ⟨rfl, rfl, rfl, rfl, rfl⟩

lemma sameScan_takeAction (t : DetectionTask) (k : Tick) : SameScan t (t.takeAction k).1 := by
  unfold takeAction
  split <;> exact ⟨rfl, rfl, rfl, rfl, rfl⟩

lemma SameScan.trans {t'' : DetectionTask} (h : SameScan t t') (h' : SameScan t' t'') :
    SameScan t t'' :=
  ⟨h'.scan.trans h.scan, h'.text.trans h.text, h'.published.trans h.published,
    h'.refresh.trans h.refresh, h'.pendingIdle.trans h.pendingIdle⟩

/-- A probe that finds another agent forgets the last scan, any other one keeps it. -/
lemma probeIfDue_scan (loop : DetectionLoop) (t : DetectionTask) (k : Tick) :
    ((t.probeIfDue loop k).changed = true ∧
        (t.probeIfDue loop k).task.lastScreenScanDetectionContentSeq = none ∧
        (t.probeIfDue loop k).task.pendingIdle = .clear) ∨
      ((t.probeIfDue loop k).changed = false ∧ SameScan t (t.probeIfDue loop k).task ∧
        (t.probeIfDue loop k).agent = t.agentPresence.currentAgent) := by
  unfold probeIfDue
  split
  · rcases htaken : (t.startProbe k).takeAction k with ⟨acted, changed⟩
    cases changed with
    | false =>
      have hacted : SameScan (t.startProbe k) acted := by
        have hsame := sameScan_takeAction (t.startProbe k) k
        rwa [htaken] at hsame
      have hstart : SameScan t (t.startProbe k) := ⟨rfl, rfl, rfl, rfl, rfl⟩
      rw [probe_unchanged htaken]
      exact .inr ⟨rfl, (hstart.trans hacted).trans (sameScan_noteProbe loop acted k _ _), rfl⟩
    | true =>
      obtain ⟨noted, -, hprobe⟩ := probe_changed loop htaken
        (@takeAction_changes (t.startProbe k) k acted htaken)
      rw [hprobe]
      refine .inl ⟨rfl, ?_⟩
      unfold changeAgent
      dsimp only
      split <;> exact ⟨rfl, rfl⟩
  · exact .inr ⟨rfl, ⟨rfl, rfl, rfl, rfl, rfl⟩, rfl⟩

/-- After a reported exit the next probe is due, and unless it finds the same agent again it changes
the agent. -/
lemma probeIfDue_changed (loop : DetectionLoop) (hpending : t.pendingForegroundShellClear = true)
    (hsome : t.agentPresence.currentAgent ≠ none) (hreported : t.foregroundShellExitReported = true)
    (hpid : 0 < k.pid) (hother : k.newAgent ≠ t.agentPresence.currentAgent) :
    (t.probeIfDue loop k).changed = true := by
  have hdue : t.shouldCheckProcess k = true := by
    unfold shouldCheckProcess shouldSkipProcessProbeForLifecycleAuthority shouldProbeForegroundJob
    have hclear : (t.probeInput k).pendingForegroundShellClear = true := hpending
    rw [hclear, decide_eq_true hpid]
    rw [Bool.not_true, Bool.and_false, Bool.false_and, Bool.false_and, Bool.false_and]
    rfl
  have htaken : ∃ acted, (t.startProbe k).takeAction k = (acted, true) := by
    obtain ⟨b, hb⟩ := Option.ne_none_iff_exists'.mp hsome
    cases hnew : k.newAgent with
    | none =>
      refine ⟨_, takeAction_clearAgent ?_⟩
      change foregroundShellAgentAction t.agentPresence.currentAgent k.newAgent
        k.probe.foregroundIsPaneShell t.foregroundShellExitReported = .clearAgent
      rw [hnew, hb, hreported]
      rfl
    | some a =>
      have haction : (t.startProbe k).action k = .observeProbe := by
        change foregroundShellAgentAction t.agentPresence.currentAgent k.newAgent
          k.probe.foregroundIsPaneShell t.foregroundShellExitReported = .observeProbe
        rw [hnew, hb]
        rfl
      have hobserved : (t.agentPresence.observeProcessProbe k.newAgent).2 = true := by
        rw [hnew] at hother ⊢
        unfold AgentDetectionPresence.observeProcessProbe
        dsimp only
        rw [if_neg hother]
      exact ⟨_, (takeAction_observeProbe haction).trans (congrArg _ hobserved)⟩
  obtain ⟨acted, htaken⟩ := htaken
  obtain ⟨noted, -, hprobe⟩ := probe_changed loop htaken
    (@takeAction_changes (t.startProbe k) k acted htaken)
  unfold probeIfDue
  rw [if_pos hdue, hprobe]

/-! ### A screen that is read -/

lemma shouldHold_clear (p : PendingIdleConfirmation) (previous next : DetectionPublishState)
    (changed exited : Bool) (now : Millis) :
    let r := p.shouldHoldWorkingToIdle previous next changed exited now
    (r.1.active = false → r.1 = .clear) ∧ (r.2 = true → previous.state = .working) := by
  dsimp only
  unfold PendingIdleConfirmation.shouldHoldWorkingToIdle
  by_cases hguard : (!(previous.state = .working && next.state = .idle && !next.visibleIdle &&
      !next.visibleBlocker && !changed && !exited)) = true
  · rw [if_pos hguard]
    exact ⟨fun _ => rfl, fun h => nomatch h⟩
  · rw [if_neg hguard]
    have hworking : previous.state = .working := by
      simp only [Bool.not_eq_true', Bool.not_eq_false, Bool.and_eq_true, decide_eq_true_eq] at hguard
      exact hguard.1.1.1.1.1
    split
    · exact ⟨fun h => (nomatch h), fun _ => hworking⟩
    · dsimp only
      split_ifs
      · exact ⟨fun _ => rfl, fun h => nomatch h⟩
      · exact ⟨fun _ => rfl, fun h => nomatch h⟩
      · exact ⟨fun h => (nomatch h), fun _ => hworking⟩

lemma shouldPublishDetectionUpdate_eq {previous next : DetectionPublishState}
    {changed exited due : Bool}
    (h : shouldPublishDetectionUpdate previous next changed exited due = false) :
    next = previous ∧ exited = false := by
  unfold shouldPublishDetectionUpdate at h
  simp only [Bool.or_eq_false_iff, decide_eq_false_iff_not, not_not, bne_eq_false_iff_eq] at h
  obtain ⟨⟨⟨⟨⟨⟨hstate, hidle⟩, hblocker⟩, hworking⟩, -⟩, hexited⟩, -⟩ := h
  refine ⟨?_, hexited⟩
  cases previous
  cases next
  dsimp only at hstate hidle hblocker hworking
  rw [hstate, hidle, hblocker, hworking]

/-- What is published is what was detected; where nothing is, the state was held at working or is
the one published last. -/
lemma decideScreenDetectionPublish_spec (previous : DetectionPublishState)
    (refresh : Option Millis) (detection : AgentDetection) (exited changed : Bool) (now : Millis)
    (p : PendingIdleConfirmation) :
    let r := decideScreenDetectionPublish previous refresh detection exited changed now p
    (r.1.active = false → r.1 = .clear) ∧
      (r.2 = none → previous.state = .working ∨
        detection.publishState = previous ∧ exited = false) ∧
      ∀ update, r.2 = some update → update = detection.publishState := by
  obtain ⟨hclear, hheld⟩ := shouldHold_clear p previous detection.publishState changed exited now
  dsimp only
  unfold decideScreenDetectionPublish
  dsimp only
  split
  · next hhold => exact ⟨hclear, fun _ => .inl (hheld hhold), fun _ h => nomatch h⟩
  · split
    · exact ⟨hclear, fun h => (nomatch h), fun _ h => (Option.some.inj h).symm⟩
    · next hpublish =>
      exact ⟨hclear, fun _ => .inr (shouldPublishDetectionUpdate_eq (Bool.eq_false_iff.mpr hpublish)),
        fun _ h => nomatch h⟩

/-- What the rest of an iteration needs of a screen it has read. -/
structure Read (detectWithOsc : Agent → DetectionInput → AgentDetection) (t : DetectionTask)
    (agent : Option Agent) (input : DetectionInput) (r : DetectionTask) : Prop where
  scan : r.lastScreenScanDetectionContentSeq = t.lastScreenScanDetectionContentSeq
  text : r.lastDetectionText = t.lastDetectionText
  quiet : r.state = .idle → r.foregroundShellExitReported = false →
    r.Quiet detectWithOsc agent input
  pendingIdle : r.pendingIdle.active = false → r.pendingIdle = .clear
  agentPresence : r.agentPresence = t.agentPresence
  pending : r.pendingForegroundShellClear = t.pendingForegroundShellClear
  reported : r.foregroundShellExitReported = true →
    t.foregroundShellExitReported = true ∨ t.processExited agent = true

lemma read_publishScreen (t : DetectionTask) {exited : Bool}
    (hexits : exited = true → t.processExited agent = true) : Read detectWithOsc t agent input
      (t.publishScreen detectWithOsc k agent agentChanged exited input).1 := by
  unfold publishScreen
  split
  · next hnone =>
    refine ⟨rfl, rfl, fun _ _ => .inr (.inl ?_), fun _ => rfl, rfl, rfl, .inl⟩
    unfold detectionUpdateForPublishWithOsc at hnone
    split at hnone
    · cases hnone
    · dsimp only at hnone
      split at hnone
      · next hskipped => exact hskipped
      · cases hnone
  · next detection hdetection =>
    obtain ⟨hclear, hheld, hupdate⟩ := decideScreenDetectionPublish_spec t.published
      t.lastVisibleSignalRefresh detection exited agentChanged k.now t.pendingIdle
    have hdetected : exited = false → detection = detectAgentWithOsc detectWithOsc agent input := by
      rintro rfl
      unfold detectionUpdateForPublishWithOsc at hdetection
      rw [if_neg Bool.false_ne_true] at hdetection
      dsimp only at hdetection
      split at hdetection
      · cases hdetection
      · exact (Option.some.inj hdetection).symm
    dsimp only
    split
    · next hnone =>
      refine ⟨rfl, rfl, fun hidle _ => .inr (.inr ?_), hclear, rfl, rfl, .inl⟩
      rcases hheld hnone with hworking | ⟨hsame, hexited⟩
      · cases hidle.symm.trans hworking
      · rw [← hdetected hexited]
        exact hsame
    · next update hsome =>
      refine ⟨rfl, rfl, fun _ hreported => .inr (.inr ?_), hclear, rfl, rfl,
        fun hreported => ((Bool.or_eq_true _ _).mp hreported).imp_right hexits⟩
      have hexited : exited = false := ((Bool.or_eq_false_iff).mp hreported).2
      rw [← hdetected hexited, ← hupdate update hsome]
      rfl

lemma syncContentChangeAcquisition_scan (t : DetectionTask) (suppressed : Option Agent)
    (changed contentChanged : Bool) (now : Millis) :
    let t' := t.syncContentChangeAcquisition suppressed changed contentChanged now
    t'.lastScreenScanDetectionContentSeq = t.lastScreenScanDetectionContentSeq ∧
      t'.lastDetectionText = t.lastDetectionText ∧
      t'.pendingForegroundShellClear = t.pendingForegroundShellClear := by
  dsimp only
  unfold syncContentChangeAcquisition
  split_ifs
  · exact ⟨rfl, rfl, rfl⟩
  · exact ⟨rfl, rfl, rfl⟩
  · split
    · split_ifs <;> exact ⟨rfl, rfl, rfl⟩
    · exact ⟨rfl, rfl, rfl⟩

/-- What the acquisition of an agent changes is not read again. -/
lemma Read.of_sync {suppressed : Option Agent} {contentChanged : Bool} {now : Millis}
    {r : DetectionTask} (t : DetectionTask)
    (h : Read detectWithOsc (t.syncContentChangeAcquisition suppressed processGroupChanged
      contentChanged now) agent input r) : Read detectWithOsc t agent input r := by
  obtain ⟨hscan, htext, hpending⟩ := syncContentChangeAcquisition_scan t suppressed
    processGroupChanged contentChanged now
  obtain ⟨hpresence, hreported⟩ := syncContentChangeAcquisition_keeps t suppressed
    processGroupChanged contentChanged now
  refine ⟨h.scan.trans hscan, h.text.trans htext, h.quiet, h.pendingIdle,
    h.agentPresence.trans hpresence, h.pending.trans hpending, fun hr => ?_⟩
  have hbefore := h.reported hr
  unfold processExited at hbefore ⊢
  rw [hreported, hpending] at hbefore
  exact hbefore

lemma read_readScreen {decide : DetectionScreenReadInput → DetectionScreenReadDecision}
    (t : DetectionTask)
    (hread : decide ⟨t.state, agent, t.pendingIdle.active, agentChanged, t.processExited agent,
      if agent.isSome then some seq else none, t.lastScreenScanDetectionContentSeq⟩ = .read) :
    Read detectWithOsc { t with
      lastScreenScanDetectionContentSeq := if agent.isSome then some seq else none
      lastDetectionText := input.screen } agent input
      (t.readScreen detectWithOsc decide loop k agent agentChanged processGroupChanged seq
        input).1 := by
  unfold readScreen
  dsimp only
  rw [hread]
  dsimp only
  generalize (if agent.isSome then some seq else none) = currentSeq
  split
  · next hskips =>
    refine ⟨rfl, rfl, fun _ _ => .inl ?_, fun _ => rfl, rfl, rfl, .inl⟩
    cases loop with
    | spawnCommandBuilder => exact hskips
    | spawnBasicDetectionTask => exact ((Bool.and_eq_true _ _).mp hskips).2
  · have hexits (s : DetectionTask) (hp : s.pendingForegroundShellClear =
        t.pendingForegroundShellClear)
        (hr : s.foregroundShellExitReported = t.foregroundShellExitReported)
        (h : t.processExited agent = true) : s.processExited agent = true := by
      unfold processExited at h ⊢
      rw [hp, hr]
      exact h
    refine Read.of_sync { t with
      lastScreenScanDetectionContentSeq := currentSeq
      lastDetectionText := input.screen } (read_publishScreen _ (hexits _ ?_ ?_))
    · exact (syncContentChangeAcquisition_scan _ _ _ _ _).2.2
    · exact (syncContentChangeAcquisition_keeps _ _ _ _ _).2

/-- What is read while the screen does not change is what the screen then shows. -/
lemma scanned_readScreen {decide : DetectionScreenReadInput → DetectionScreenReadDecision}
    (h : Scanned detectWithOsc t c)
    (hread : decide ⟨t.state, agent, t.pendingIdle.active, agentChanged, t.processExited agent,
      if agent.isSome then some c.detectionContentSeq else none,
      t.lastScreenScanDetectionContentSeq⟩ = .read)
    (hagent : agent = t.agentPresence.currentAgent)
    (hlater : c.detectionContentSeq < c'.detectionContentSeq ∨ c' = c ∧ input = c.input) :
    Scanned detectWithOsc (t.readScreen detectWithOsc decide loop k agent agentChanged
      processGroupChanged c.detectionContentSeq input).1 c' := by
  have hr : Read detectWithOsc { t with
      lastScreenScanDetectionContentSeq :=
        if agent.isSome then some c.detectionContentSeq else none
      lastDetectionText := input.screen } agent input (t.readScreen detectWithOsc decide loop k
      agent agentChanged processGroupChanged c.detectionContentSeq input).1 :=
    read_readScreen t hread
  generalize (t.readScreen detectWithOsc decide loop k agent agentChanged processGroupChanged
    c.detectionContentSeq input).1 = r at hr
  have hscan : ∀ n, r.lastScreenScanDetectionContentSeq = some n → n = c.detectionContentSeq := by
    intro n hn
    have hread := hr.scan.symm.trans hn
    dsimp only at hread
    split at hread
    · exact (Option.some.inj hread).symm
    · cases hread
  have hsame (hn : r.lastScreenScanDetectionContentSeq = some c'.detectionContentSeq) :
      c' = c ∧ input = c.input := by
    refine hlater.resolve_left fun hlt => ?_
    rw [hscan _ hn] at hlt
    exact absurd hlt (lt_irrefl _)
  exact {
    bounded := fun n hn => by
      rw [hscan n hn]
      rcases hlater with hlt | ⟨hc, -⟩
      · exact hlt.le
      · rw [hc]
    text := fun hn => by
      obtain ⟨hc, hinput⟩ := hsame hn
      rw [hc, ← hinput]
      exact hr.text
    quiet := fun hn hidle hreported => by
      obtain ⟨hc, hinput⟩ := hsame hn
      rw [hc, ← hinput, hr.agentPresence]
      dsimp only
      rw [← hagent]
      exact hr.quiet hidle hreported
    pendingIdle := hr.pendingIdle
    reported := fun hreported => by
      rw [hr.pending, hr.agentPresence]
      dsimp only
      rcases hr.reported hreported with hbefore | hexited
      · exact h.reported hbefore
      · refine ⟨?_, hagent ▸ processExited_some hexited⟩
        have hexited' : t.processExited agent = true := hexited
        unfold processExited at hexited'
        simp only [Bool.and_eq_true] at hexited'
        exact hexited'.1.1 }

lemma Scanned.clearPendingIdle (h : Scanned detectWithOsc t c) :
    Scanned detectWithOsc t.clearPendingIdle c :=
  ⟨h.bounded, h.text, h.quiet, fun _ => rfl, h.reported⟩

/-- Forgetting the last scan does no harm. -/
lemma Scanned.forget (h : Scanned detectWithOsc t c)
    (hscan : t'.lastScreenScanDetectionContentSeq = t.lastScreenScanDetectionContentSeq ∨
      t'.lastScreenScanDetectionContentSeq = none)
    (hsame : t' = { t with
      lastScreenScanDetectionContentSeq := t'.lastScreenScanDetectionContentSeq
      agentStartupGraceUntil := t'.agentStartupGraceUntil
      pendingIdle := .clear }) : Scanned detectWithOsc t' c := by
  have hkept {n : Nat} (hn : t'.lastScreenScanDetectionContentSeq = some n) :
      t.lastScreenScanDetectionContentSeq = some n := by
    rcases hscan with hscan | hscan
    · exact hscan ▸ hn
    · cases hscan.symm.trans hn
  generalize t'.lastScreenScanDetectionContentSeq = scan at hkept hsame
  generalize t'.agentStartupGraceUntil = grace at hsame
  subst hsame
  exact ⟨fun n hn => h.bounded n (hkept hn), fun hn => h.text (hkept hn),
    fun hn => h.quiet (hkept hn), fun _ => rfl, h.reported⟩

/-! ### After the probe -/

/-- The reading of the screen in lockstep with the loop that never skips it. -/
structure Lockstep (detectWithOsc : Agent → DetectionInput → AgentDetection) (c : DetectionContent)
    (r r' : DetectionTask × List StateChanged) : Prop where
  scanned : Scanned detectWithOsc r.1 c
  same : ∃ scan, r' = (r.1.setScan scan, r.2)

lemma lockstep_readScreen (h : Scanned detectWithOsc t c)
    (hagent : agent = t.agentPresence.currentAgent)
    (hquiet : t.lastScreenScanDetectionContentSeq = some c.detectionContentSeq → t.state = .idle →
      t.Quiet detectWithOsc agent c.input)
    (hlater : c.detectionContentSeq < c'.detectionContentSeq ∨ c' = c ∧ input = c.input)
    (hskips : decideDetectionScreenRead ⟨t.state, agent, t.pendingIdle.active, agentChanged,
      t.processExited agent, if agent.isSome then some c.detectionContentSeq else none,
      t.lastScreenScanDetectionContentSeq⟩ = .skip → c' = c ∧ input = c.input)
    (scan : Option Nat) : Lockstep detectWithOsc c'
      (t.readScreen detectWithOsc decideDetectionScreenRead loop k agent agentChanged
        processGroupChanged c.detectionContentSeq input)
      ((t.setScan scan).readScreen detectWithOsc alwaysRead loop k agent agentChanged
        processGroupChanged c.detectionContentSeq input) := by
  cases hdecide : decideDetectionScreenRead ⟨t.state, agent, t.pendingIdle.active, agentChanged,
      t.processExited agent, if agent.isSome then some c.detectionContentSeq else none,
      t.lastScreenScanDetectionContentSeq⟩ with
  | read =>
    refine ⟨scanned_readScreen h hdecide hagent hlater, ?_⟩
    rw [readScreen_of_read t scan hdecide]
    exact ⟨_, rfl⟩
  | skip =>
    obtain ⟨hc, hinput⟩ := hskips hdecide
    obtain ⟨hidle, hsome, -, -, -, hscan⟩ := shouldSkipIdleScreenScan_spec hdecide
    have hscanned : t.lastScreenScanDetectionContentSeq = some c.detectionContentSeq := by
      rw [if_pos hsome] at hscan
      exact hscan
    have hleft : t.readScreen detectWithOsc decideDetectionScreenRead loop k agent agentChanged
        processGroupChanged c.detectionContentSeq input = (t, []) := by
      unfold readScreen
      dsimp only
      rw [hdecide]
    rw [hleft, readScreen_of_skip t scan hdecide hagent (hinput ▸ h.text hscanned) h.pendingIdle
      (hinput ▸ hquiet hscanned hidle)]
    exact ⟨hc ▸ h, _, rfl⟩

lemma lockstep_afterProbe (h : Scanned detectWithOsc t c)
    (hagent : agent = t.agentPresence.currentAgent)
    (hquiet : t.lastScreenScanDetectionContentSeq = some c.detectionContentSeq → t.state = .idle →
      t.Quiet detectWithOsc agent c.input)
    (hlater : c.detectionContentSeq < c'.detectionContentSeq ∨ c' = c ∧ input = c.input)
    (hskips : k.fullLifecycleAuthorityActive = false → t.agentStartupGraceUntil = none →
      decideDetectionScreenRead ⟨t.state, agent, t.pendingIdle.active, agentChanged,
        t.processExited agent, some c.detectionContentSeq, t.lastScreenScanDetectionContentSeq⟩ =
        .skip → c' = c ∧ input = c.input)
    (scan : Option Nat) : Lockstep detectWithOsc c'
      (t.afterProbe detectWithOsc decideDetectionScreenRead loop k agent agentChanged
        processGroupChanged c.detectionContentSeq input)
      ((t.setScan scan).afterProbe detectWithOsc alwaysRead loop k agent agentChanged
        processGroupChanged c.detectionContentSeq input) := by
  have hafter : Scanned detectWithOsc t c' := by
    rcases hlater with hlt | ⟨hc, -⟩
    · exact h.later hlt
    · rw [hc]
      exact h
  have hsame : (t.setScan scan).processExited agent = t.processExited agent := rfl
  have hgrace : (t.setScan scan).agentStartupGraceUntil = t.agentStartupGraceUntil := rfl
  unfold afterProbe
  rw [hsame, hgrace]
  dsimp only
  cases hexited : t.processExited agent with
  | true =>
    rw [Bool.not_true, Bool.and_false, if_neg Bool.false_ne_true, if_neg Bool.false_ne_true]
    have hread (s : DetectionTask) (hs : s.processExited agent = true) :
        decideDetectionScreenRead ⟨s.state, agent, s.pendingIdle.active, agentChanged,
          s.processExited agent, if agent.isSome then some c.detectionContentSeq else none,
          s.lastScreenScanDetectionContentSeq⟩ ≠ .skip := by
      rw [decideDetectionScreenRead_read _ (.inr hs)]
      exact fun hskip => nomatch hskip
    cases hgrace : t.agentStartupGraceUntil with
    | none =>
      exact lockstep_readScreen h hagent hquiet hlater (fun hskip => absurd hskip (hread t hexited))
        scan
    | some graceUntil =>
      have hended : Scanned detectWithOsc (t.endGraceAtExit loop) c := by
        refine h.forget ?_ rfl
        cases loop with
        | spawnCommandBuilder => exact .inr rfl
        | spawnBasicDetectionTask => exact .inl rfl
      dsimp only
      rw [if_pos rfl, if_pos rfl]
      have hskipped (hskip : _) := hread (t.endGraceAtExit loop) hexited hskip
      cases loop with
      | spawnCommandBuilder =>
        exact lockstep_readScreen hended hagent (fun hn => nomatch hn) hlater
          (fun hskip => absurd hskip hskipped) none
      | spawnBasicDetectionTask =>
        exact lockstep_readScreen hended hagent hquiet hlater
          (fun hskip => absurd hskip hskipped) scan
  | false =>
    rw [Bool.not_false, Bool.and_true]
    cases hactive : k.fullLifecycleAuthorityActive with
    | true =>
      rw [if_pos rfl, if_pos rfl]
      exact ⟨hafter.clearPendingIdle, scan, rfl⟩
    | false =>
      rw [if_neg Bool.false_ne_true, if_neg Bool.false_ne_true]
      cases hgrace : t.agentStartupGraceUntil with
      | none =>
        refine lockstep_readScreen h hagent hquiet hlater (fun hskip => ?_) scan
        have hsome := (shouldSkipIdleScreenScan_spec hskip).2.1
        rw [if_pos hsome] at hskip
        exact hskips hactive hgrace hskip
      | some graceUntil =>
        dsimp only
        rw [if_neg Bool.false_ne_true, if_neg Bool.false_ne_true]
        split
        · exact ⟨hafter.clearPendingIdle, scan, rfl⟩
        · cases loop with
          | spawnCommandBuilder => exact ⟨hafter.forget (.inl rfl) rfl, scan, rfl⟩
          | spawnBasicDetectionTask => exact ⟨hafter.forget (.inr rfl) rfl, none, rfl⟩

/-- What the probe leaves of the last scan; an exit that stays reported was not followed by one. -/
lemma scanned_probeIfDue {content : DetectionContent} (h : Scanned detectWithOsc t c)
    (hc : (t.probeIfDue loop k).changed = false → content = c)
    (hunhidden : t.foregroundShellExitReported = true →
      (0 < k.pid ∧ k.newAgent ≠ t.agentPresence.currentAgent) ∨
        t.lastScreenScanDetectionContentSeq ≠ some c.detectionContentSeq ∨
        t.Quiet detectWithOsc t.agentPresence.currentAgent c.input) :
    let p := t.probeIfDue loop k
    Scanned detectWithOsc p.task content ∧
      (p.task.lastScreenScanDetectionContentSeq = some content.detectionContentSeq →
        p.task.state = .idle → p.task.Quiet detectWithOsc p.agent content.input) := by
  intro p
  have hreported : p.task.foregroundShellExitReported = true → p = ⟨t, none,
      t.agentPresence.currentAgent, false, []⟩ := by
    intro hr
    by_cases hdue : t.shouldCheckProcess k = true
    · have hprobed : p = t.probe loop k := if_pos hdue
      rw [hprobed] at hr
      cases probe_cases loop t k with
      | exits _ _ _ _ _ _ hnot => cases hnot.symm.trans hr
      | keeps _ _ _ _ _ hnot => cases hnot.symm.trans hr
      | finds _ _ _ _ _ _ hnot => cases hnot.symm.trans hr
      | givesUp _ _ _ _ _ _ _ hnot => cases hnot.symm.trans hr
    · exact if_neg hdue
  rcases probeIfDue_scan loop t k with ⟨hchanged, hscan, hpending⟩ | ⟨hsame, hs, hagent⟩
  · refine ⟨.of_none hscan hpending (Bool.eq_false_iff.mpr fun hr => ?_), fun hn => ?_⟩
    · have hp := congrArg Probed.changed (hreported hr)
      cases hchanged.symm.trans hp
    · cases hscan.symm.trans hn
  · have hcurrent : p.task.agentPresence.currentAgent = t.agentPresence.currentAgent :=
      (probeIfDue_reported loop t k).1.symm.trans hagent
    rw [hc hsame]
    have hquiet (hn : t.lastScreenScanDetectionContentSeq = some c.detectionContentSeq)
        (hr : t.foregroundShellExitReported = true) :
        t.Quiet detectWithOsc t.agentPresence.currentAgent c.input := by
      rcases hunhidden hr with ⟨hpid, hother⟩ | hscan | hquiet
      · obtain ⟨hpending, hsome⟩ := h.reported hr
        cases hsame.symm.trans (probeIfDue_changed loop hpending hsome hr hpid hother)
      · exact absurd hn hscan
      · exact hquiet
    refine ⟨h.of_same hs hcurrent (fun _ hr hn => hquiet hn hr) fun hr => ?_, fun hn hidle => ?_⟩
    · have hp := hreported hr
      have htask : p.task = t := congrArg Probed.task hp
      rw [htask] at hr ⊢
      exact ⟨hr, rfl⟩
    · have hn' : t.lastScreenScanDetectionContentSeq = some c.detectionContentSeq :=
        hs.scan.symm.trans hn
      unfold Quiet
      rw [hs.published]
      have hagent' : p.agent = t.agentPresence.currentAgent := hagent
      rw [hagent']
      cases hr : t.foregroundShellExitReported with
      | true => exact hquiet hn' hr
      | false => exact h.quiet hn' (hs.state.symm.trans hidle) hr

/-! ### All iterations -/

/-- The screen while an iteration reads it. -/
lemma read_unless_changed (c : DetectionContent) (k : Tick) :
    let atText := c.change k.beforeText
    let atTitle := atText.change k.beforeTitle
    let atProgress := atTitle.change k.beforeProgress
    (k.beforeText = [] ∧ k.beforeTitle = [] ∧ k.beforeProgress = [] → atProgress = c ∧
      (⟨atText.input.screen, atTitle.input.oscTitle, atProgress.input.oscProgress⟩ :
        DetectionInput) = c.input) ∧
    (c.detectionContentSeq < atProgress.detectionContentSeq ∨
      k.beforeText = [] ∧ k.beforeTitle = [] ∧ k.beforeProgress = []) := by
  refine ⟨fun ⟨htext, htitle, hprogress⟩ => ?_, ?_⟩
  · rw [htext, htitle, hprogress]
    exact ⟨rfl, rfl⟩
  · rw [change_seq, change_seq, change_seq]
    by_cases hlater : k.beforeText.length + k.beforeTitle.length + k.beforeProgress.length = 0
    · exact .inr ⟨List.length_eq_zero_iff.mp (by omega), List.length_eq_zero_iff.mp (by omega),
        List.length_eq_zero_iff.mp (by omega)⟩
    · exact .inl (by omega)

end

end DetectionTask

section
variable {detectWithOsc : Agent → DetectionInput → AgentDetection} {loop : DetectionLoop}
  {t : DetectionTask} {content : DetectionContent} {k : Tick}

open DetectionTask

/-- One iteration of the two loops. -/
lemma lockstep_iterate (h : t.Scanned detectWithOsc content)
    (hunhidden : t.Unhidden detectWithOsc loop content k) (scan : Option Nat) :
    let i := iterate detectWithOsc decideDetectionScreenRead loop t content k
    let i' := iterate detectWithOsc alwaysRead loop (t.setScan scan) content k
    i.task.Scanned detectWithOsc i.content ∧ i'.events = i.events ∧ i'.content = i.content ∧
      ∃ scan', i'.task = i.task.setScan scan' := by
  obtain ⟨hexit, hskips⟩ := hunhidden
  have hawake : (t.wake loop k).Scanned detectWithOsc (content.atSeq k) :=
    ((h.wake loop k).change k.beforeProbe).change k.beforeSeq
  obtain ⟨woken, hwoken⟩ := wake_setScan loop t k scan
  obtain ⟨probed, hprobed⟩ := probeIfDue_setScan loop (t.wake loop k) k woken
  have hpgid : ((t.wake loop k).setScan woken).lastForegroundPgid =
      (t.wake loop k).lastForegroundPgid := rfl
  intro i i'
  unfold Skips at hskips
  dsimp only at hexit hskips
  simp only [i, i', iterate]
  rw [hwoken, hprobed, hpgid]
  dsimp only
  generalize foregroundGroupChanged k.foregroundPgid (t.wake loop k).lastForegroundPgid = group
  generalize hcleared : (if ((t.wake loop k).probeIfDue loop k).changed then
    (content.change k.beforeProbe).clearAgentOscState else content.change k.beforeProbe) = cleared
  have hc (hsame : ((t.wake loop k).probeIfDue loop k).changed = false) :
      cleared.change k.beforeSeq = content.atSeq k := by
    rw [← hcleared, hsame]
    rfl
  have hseq : (cleared.change k.beforeSeq).detectionContentSeq =
      (content.atSeq k).detectionContentSeq := by
    unfold DetectionContent.atSeq
    rw [change_seq, change_seq, ← hcleared]
    split <;> rfl
  obtain ⟨hscanned, hquiet⟩ := scanned_probeIfDue hawake hc hexit
  have hagent := (probeIfDue_reported loop (t.wake loop k) k).1
  generalize (t.wake loop k).probeIfDue loop k = p at hskips hscanned hquiet hagent ⊢
  obtain ⟨hunchanged, hlater⟩ := read_unless_changed (cleared.change k.beforeSeq) k
  rw [← hseq] at hskips
  obtain ⟨hafter, scan', hsame⟩ := @lockstep_afterProbe _ loop _ k _ p.changed group _ _ _ hscanned
    hagent hquiet (hlater.imp_right hunchanged)
    (fun hactive hgrace hskip => hunchanged (hskips ⟨hactive, hgrace, hskip⟩)) probed
  rw [hsame]
  exact ⟨hafter, rfl, rfl, scan', rfl⟩

/-- The iterations of the two loops publish the same. -/
lemma lockstep_iterations (ks : List Tick) {t : DetectionTask} {content : DetectionContent}
    (h : t.Scanned detectWithOsc content)
    (hunhidden : ∀ n (hn : n < ks.length),
      let s := afterIterations detectWithOsc decideDetectionScreenRead loop t content (ks.take n)
      s.1.Unhidden detectWithOsc loop s.2 (ks.get ⟨n, hn⟩)) (scan : Option Nat) :
    (iterations detectWithOsc alwaysRead loop (t.setScan scan) content ks).map Iteration.events =
      (iterations detectWithOsc decideDetectionScreenRead loop t content ks).map
        Iteration.events := by
  induction ks generalizing t content scan with
  | nil => rfl
  | cons k ks ih =>
    have hfirst : t.Unhidden detectWithOsc loop content k := hunhidden 0 (Nat.succ_pos _)
    obtain ⟨hnext, hevents, hcontent, scan', htask⟩ := lockstep_iterate h hfirst scan
    have hlater := ih hnext (fun n hn => hunhidden (n + 1) (Nat.succ_lt_succ hn)) scan'
    rw [iterations, iterations, List.map_cons, List.map_cons, hevents, hcontent, htask, hlater]

end

/-- A loop whose iterations hide nothing publishes what the loop that reads every screen publishes,
iteration by iteration. -/
theorem skipping_hides_nothing (detectWithOsc : Agent → DetectionInput → AgentDetection)
    (loop : DetectionLoop) (detectedAgent : Option Agent) (now : Millis)
    (content : DetectionContent) (ks : List Tick)
    (h : ∀ n (hn : n < ks.length),
      let s := afterIterations detectWithOsc decideDetectionScreenRead loop
        (.start loop detectedAgent now) content (ks.take n)
      s.1.Unhidden detectWithOsc loop s.2 (ks.get ⟨n, hn⟩)) :
    (iterations detectWithOsc decideDetectionScreenRead loop (.start loop detectedAgent now) content
      ks).map Iteration.events =
    (iterations detectWithOsc alwaysRead loop (.start loop detectedAgent now) content ks).map
      Iteration.events := by
  have hstart : (DetectionTask.start loop detectedAgent now).Scanned detectWithOsc content :=
    .of_none rfl rfl rfl
  exact (lockstep_iterations ks hstart h none).symm

/-- The agent is in the foreground. -/
def agentTick (now : Millis) (beforeSeq : List DetectionInput) : Tick where
  reset := none
  now := now
  pendingRelease := none
  pid := 1
  fullLifecycleAuthorityActive := false
  foregroundProcessGroupId := some 2
  probe := ⟨some 2, false, some .claude⟩
  beforeProbe := []
  beforeSeq := beforeSeq
  beforeText := []
  beforeTitle := []
  beforeProgress := []

def detectInterruptHint (_ : Agent) (input : DetectionInput) : AgentDetection :=
  if input.screen = "esc to interrupt" then ⟨.working, false, false, false, true⟩
  else ⟨.idle, false, false, false, false⟩

/-- A restored agent whose unchanged screen is read once and then skipped until it works. -/
def restoredTicks : List Tick :=
  [agentTick 50 [], agentTick 350 [], agentTick 650 [⟨"esc to interrupt", "", ""⟩],
    shellTick 5700 false]

theorem skipping_hides_nothing_restored :
    (iterations detectInterruptHint decideDetectionScreenRead .spawnCommandBuilder
      (.start .spawnCommandBuilder (some .claude) 0) ⟨⟨">", "", ""⟩, 0⟩ restoredTicks).map
      Iteration.events =
    (iterations detectInterruptHint alwaysRead .spawnCommandBuilder
      (.start .spawnCommandBuilder (some .claude) 0) ⟨⟨">", "", ""⟩, 0⟩ restoredTicks).map
      Iteration.events :=
  skipping_hides_nothing detectInterruptHint .spawnCommandBuilder (some .claude) 0
    ⟨⟨">", "", ""⟩, 0⟩ restoredTicks (by decide +kernel)

/-- An exit is reported and the agent is found again before its screen changes: it works, and the
loop that takes the screen for scanned leaves it idle. -/
theorem state_hidden_after_exit :
    let ks := [shellTick 50 false, agentTick 350 [], agentTick 650 []]
    (iterations detectInterruptHint decideDetectionScreenRead .spawnCommandBuilder
      (.start .spawnCommandBuilder (some .claude) 0) ⟨⟨"esc to interrupt", "", ""⟩, 0⟩ ks).flatMap
      Iteration.events = [⟨some .claude, .idle, false, false, true, 50⟩] ∧
    (iterations detectInterruptHint alwaysRead .spawnCommandBuilder
      (.start .spawnCommandBuilder (some .claude) 0) ⟨⟨"esc to interrupt", "", ""⟩, 0⟩ ks).flatMap
      Iteration.events = [⟨some .claude, .idle, false, false, true, 50⟩,
        ⟨some .claude, .working, false, true, false, 350⟩] := by
  decide +kernel

end Ork3.Pane
