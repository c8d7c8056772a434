import Ork3.Proofs.HookTables

/-!
# Hooks after the end of their agent

What detections, hook reports, session reports and releases do to the tables of suppressed hooks and
stale sessions, and from it what holds in every run of them.
-/

namespace Ork3.Terminal

open Ork3.Library

namespace TerminalState

/-! ### Detections -/

section Detections
variable {s : TerminalState}

lemma foldl_remember_spec (sessions : List (String × String × AgentSessionRef))
    (s : TerminalState) :
    (sessions.foldl (fun s (source, agentLabel, sessionRef) =>
        s.rememberStaleFullLifecycleHookSession source agentLabel sessionRef) s).hookAuthority =
        s.hookAuthority ∧
    (sessions.foldl (fun s (source, agentLabel, sessionRef) =>
        s.rememberStaleFullLifecycleHookSession source agentLabel
          sessionRef) s).suppressedFullLifecycleHookReports =
        s.suppressedFullLifecycleHookReports ∧
    ∀ source agentLabel sessionRef,
      (sessions.foldl (fun s (source, agentLabel, sessionRef) =>
        s.rememberStaleFullLifecycleHookSession source agentLabel sessionRef) s).ListedStale source
          agentLabel sessionRef ↔
      s.ListedStale source agentLabel sessionRef ∨ (source, agentLabel, sessionRef) ∈ sessions := by
  induction sessions generalizing s with
  | nil => exact ⟨rfl, rfl, fun _ _ _ => by simp⟩
  | cons session sessions ih =>
    obtain ⟨source, agentLabel, sessionRef⟩ := session
    obtain ⟨ha, hs, hl⟩ := ih (s.rememberStaleFullLifecycleHookSession source agentLabel sessionRef)
    refine ⟨ha, hs, fun source' label' ref' => ?_⟩
    rw [List.foldl_cons, hl, listedStale_remember, List.mem_cons, Prod.mk.injEq, Prod.mk.injEq,
      or_assoc]

/-- A detection that newly identifies an agent lifts the suppression of its hooks. -/
def Lifts (previousDetectedAgent detectedAgent : Option Agent) (agentLabel : String) : Prop :=
  detectedAgent.isSome ∧ previousDetectedAgent ≠ detectedAgent ∧
    parseAgentLabel agentLabel = detectedAgent

lemma clearSuppression_spec (s : TerminalState) (previous detected : Option Agent) :
    (s.clearFullLifecycleHookSuppressionForDetectedAgent previous detected).hookAuthority =
        s.hookAuthority ∧
    (∀ source entry, (s.clearFullLifecycleHookSuppressionForDetectedAgent previous
        detected).suppressedFullLifecycleHookReports.lookup source = some entry ↔
      s.suppressedFullLifecycleHookReports.lookup source = some entry ∧
        ¬Lifts previous detected entry.agentLabel) ∧
    ∀ source agentLabel sessionRef,
      (s.clearFullLifecycleHookSuppressionForDetectedAgent previous detected).ListedStale source
        agentLabel sessionRef → s.ListedStale source agentLabel sessionRef ∨
      ∃ entry, s.suppressedFullLifecycleHookReports.lookup source = some entry ∧
        entry.agentLabel = agentLabel := by
  unfold clearFullLifecycleHookSuppressionForDetectedAgent Lifts
  cases detected with
  | none => exact ⟨rfl, fun _ _ => by simp, fun _ _ _ hl => .inl hl⟩
  | some agent =>
    dsimp only
    split
    · rename_i hsame
      exact ⟨rfl, fun _ _ => by simp [hsame], fun _ _ _ hl => .inl hl⟩
    · rename_i hne
      obtain ⟨ha, hs, hl⟩ := foldl_remember_spec
        (s.suppressedFullLifecycleHookReports.entries.filterMap fun e =>
          if parseAgentLabel e.2.agentLabel = some agent then
            e.2.sessionRef.map fun sessionRef => (e.1, e.2.agentLabel, sessionRef)
          else none)
        { s with suppressedFullLifecycleHookReports :=
            s.suppressedFullLifecycleHookReports.retain fun _ suppressed =>
              !decide (parseAgentLabel suppressed.agentLabel = some agent) }
      simp only [decide_eq_true_eq] at ha hs hl ⊢
      refine ⟨ha, fun source entry => ?_, fun source label ref hlisted => ?_⟩
      · rw [hs, Table.lookup_retain, Option.filter_eq_some_iff]
        simp [hne]
      · rcases (hl source label ref).mp hlisted with hold | hmem
        · exact .inl hold
        · obtain ⟨e, he, hsome⟩ := List.mem_filterMap.mp hmem
          split_ifs at hsome
          obtain ⟨sessionRef, -, htriple⟩ := Option.map_eq_some_iff.mp hsome
          rw [Prod.mk.injEq, Prod.mk.injEq] at htriple
          obtain ⟨rfl, rfl, -⟩ := htriple
          exact .inr ⟨e.2, AList.mem_lookup_iff.mpr he, rfl⟩

lemma LiveHookSound.clearSuppression (h : s.LiveHookSound) (previous detected : Option Agent) :
    (s.clearFullLifecycleHookSuppressionForDetectedAgent previous detected).LiveHookSound := by
  obtain ⟨ha, hs, hl⟩ := s.clearSuppression_spec previous detected
  have hfull : ∀ source label ref, (s.clearFullLifecycleHookSuppressionForDetectedAgent previous
      detected).ListedStale source label ref → fullLifecycleHookAuthority source label := by
    intro source label ref hlisted
    rcases hl source label ref hlisted with hold | ⟨entry, he, rfl⟩
    · exact h.entries.stale_full source label ref hold
    · exact h.entries.suppressed_full source entry he
  refine ⟨⟨fun source entry he => ?_, hfull⟩, fun authority hau hlive => ?_, ?_⟩
  · exact h.entries.suppressed_full source entry ((hs source entry).mp he).1
  · rw [Option.eq_none_iff_forall_ne_some]
    intro entry he
    rw [ha] at hau
    have hnone := h.live_unsuppressed authority hau hlive
    rw [((hs authority.source entry).mp he).1] at hnone
    cases hnone
  · intro authority ref hau href hlisted
    rw [ha] at hau
    rcases hl _ _ _ hlisted with hold | ⟨entry, he, -⟩
    · exact h.live_not_stale authority ref hau href hold
    · rw [h.live_unsuppressed authority hau (hfull _ _ _ hlisted)] at he
      cases he

/-- `t` is sound again and still suppresses what `s` does. -/
def KeepsHooks (s t : TerminalState) : Prop :=
  t.LiveHookSound ∧ ∀ source agentLabel, s.ExitSuppressed source agentLabel →
    t.ExitSuppressed source agentLabel

lemma KeepsHooks.trans {s t u : TerminalState} (h : KeepsHooks s t) (h' : KeepsHooks t u) :
    KeepsHooks s u :=
  ⟨h'.1, fun source label he => h'.2 source label (h.2 source label he)⟩

lemma SameHooks.keepsHooks {s t : TerminalState} (h : SameHooks s t) (hs : s.LiveHookSound) :
    KeepsHooks s t :=
  ⟨h.sound hs, fun _ _ => h.exitSuppressed⟩

/-- The live authority is suppressed and gone. -/
lemma LiveHookSound.end_authority (h : s.LiveHookSound) {t : TerminalState}
    (reason : FullLifecycleHookSuppressionReason) (suppressedAt : Instant)
    (ha : t.hookAuthority = none)
    (hs : t.suppressedFullLifecycleHookReports = (s.suppressCurrentFullLifecycleHookAuthority reason
      suppressedAt).suppressedFullLifecycleHookReports)
    (hl : t.staleFullLifecycleHookSessions = s.staleFullLifecycleHookSessions) :
    KeepsHooks s t := by
  have hfull := h.entries.suppressCurrent reason suppressedAt
  refine ⟨EntriesFull.sound_of_none ⟨fun source entry he => ?_, fun source label ref he => ?_⟩ ha,
    fun source label he => ?_⟩
  · exact hfull.suppressed_full source entry (hs ▸ he)
  · rw [ListedStale, hl] at he
    exact h.entries.stale_full source label ref he
  · obtain ⟨entry, hlookup, hentry⟩ := he
    rw [ExitSuppressed, hs]
    exact ⟨entry, suppressCurrent_lookup h hlookup reason suppressedAt, hentry⟩

lemma LiveHookSound.clearExitedAgent (h : s.LiveHookSound) (agent : Option Agent)
    (processExited : Bool) (now suppressedAt : Instant) :
    KeepsHooks s (s.clearExitedAgent agent processExited now suppressedAt) := by
  unfold TerminalState.clearExitedAgent
  dsimp only
  have hstale := (s.suppressCurrent_hookAuthority .processExit suppressedAt).2
  split_ifs
  · exact h.end_authority .processExit suppressedAt rfl rfl hstale
  · exact h.end_authority .processExit suppressedAt rfl rfl hstale
  · exact SameHooks.keepsHooks ⟨rfl, rfl, rfl⟩ h
  · exact SameHooks.keepsHooks ⟨rfl, rfl, rfl⟩ h

lemma LiveHookSound.clearReplacedAgent (h : s.LiveHookSound) (previous agent : Option Agent)
    (now suppressedAt : Instant) :
    KeepsHooks s (s.clearReplacedAgent previous agent now suppressedAt) := by
  unfold TerminalState.clearReplacedAgent
  dsimp only
  have hstale := (s.suppressCurrent_hookAuthority .hookClear suppressedAt).2
  split_ifs
  · exact h.end_authority .hookClear suppressedAt rfl rfl hstale
  · exact SameHooks.keepsHooks ⟨rfl, rfl, rfl⟩ h

/-- `t` is sound again and suppresses what `s` does, unless the detection lifts it. -/
def KeepsDetected (s : TerminalState) (agent : Option Agent) (processExited : Bool)
    (t : TerminalState) : Prop :=
  t.LiveHookSound ∧ ∀ source agentLabel, s.ExitSuppressed source agentLabel →
    ¬(processExited = false ∧ Lifts s.detectedAgent agent agentLabel) →
    t.ExitSuppressed source agentLabel

lemma KeepsDetected.trans {agent : Option Agent} {processExited : Bool} {t u : TerminalState}
    (h : KeepsDetected s agent processExited t) (h' : KeepsHooks t u) :
    KeepsDetected s agent processExited u :=
  ⟨h'.1, fun source label he hlift => h'.2 source label (h.2 source label he hlift)⟩

lemma LiveHookSound.noteDetectedState (h : s.LiveHookSound) (agent : Option Agent)
    (fallbackState : AgentState) (visibleBlocker processExited : Bool)
    (now suppressedAt : Instant) :
    KeepsDetected s agent processExited
      (s.noteDetectedState agent fallbackState visibleBlocker processExited now suppressedAt) := by
  have h₁ : ({ s with detectedAgent := agent } : TerminalState).LiveHookSound :=
    SameHooks.sound (s := s) ⟨rfl, rfl, rfl⟩ h
  have h₂ : KeepsDetected s agent processExited (if !processExited then
      ({ s with detectedAgent := agent } :
        TerminalState).clearFullLifecycleHookSuppressionForDetectedAgent s.detectedAgent agent
      else { s with detectedAgent := agent }) := by
    cases processExited with
    | true => exact ⟨h₁, fun _ _ he _ => he⟩
    | false =>
      refine ⟨h₁.clearSuppression s.detectedAgent agent, fun source label he hlift => ?_⟩
      obtain ⟨entry, hentry, rfl, hreason⟩ := he
      refine ⟨entry, ?_, rfl, hreason⟩
      refine ((clearSuppression_spec { s with detectedAgent := agent } s.detectedAgent agent).2.1
        source entry).mpr ⟨hentry, fun hl => hlift ⟨rfl, hl⟩⟩
  unfold TerminalState.noteDetectedState
  dsimp only
  generalize (if !processExited then
      ({ s with detectedAgent := agent } :
        TerminalState).clearFullLifecycleHookSuppressionForDetectedAgent s.detectedAgent agent
      else { s with detectedAgent := agent }) = s₂ at h₂ ⊢
  have hrest : ∀ u, SameHooks s₂ u → KeepsDetected s agent processExited
      ((u.clearExitedAgent agent processExited now suppressedAt).clearReplacedAgent
        s.detectedAgent agent now suppressedAt) := by
    intro u hu
    have h₃ := hu.keepsHooks h₂.1
    have h₄ := h₃.1.clearExitedAgent agent processExited now suppressedAt
    have h₅ := h₄.1.clearReplacedAgent s.detectedAgent agent now suppressedAt
    exact h₂.trans (h₃.trans (h₄.trans h₅))
  apply hrest
  split_ifs
  · exact ⟨rfl, rfl, rfl⟩
  · exact ⟨rfl, rfl, rfl⟩
  · exact ⟨rfl, rfl, rfl⟩

lemma LiveHookSound.setDetectedState (h : s.LiveHookSound) (agent : Option Agent)
    (fallbackState : AgentState) (visibleBlocker visibleIdle visibleWorking processExited : Bool)
    (now suppressedAt : Instant) :
    KeepsDetected s agent processExited (s.setDetectedStateWithScreenSignalsAt agent fallbackState
      visibleBlocker visibleIdle visibleWorking processExited now suppressedAt).1 := by
  have hkeep : ∀ t, SameHooks s t → KeepsDetected s agent processExited t := fun t ht =>
    ⟨ht.sound h, fun _ _ he _ => ht.exitSuppressed he⟩
  have hnoted : ∀ t, KeepsDetected s agent processExited t → ∀ previous,
      KeepsDetected s agent processExited (t.recomputeEffectiveState previous now).1 :=
    fun t ht previous => ht.trans ((sameHooks_recompute t previous now).keepsHooks ht.1)
  unfold setDetectedStateWithScreenSignalsAt
  dsimp only
  apply hnoted
  split_ifs
  · exact hkeep _ ⟨rfl, rfl, rfl⟩
  · exact hkeep _ ⟨rfl, rfl, rfl⟩
  · exact hkeep _ ⟨rfl, rfl, rfl⟩
  · exact h.noteDetectedState agent fallbackState visibleBlocker processExited now suppressedAt

/-- The detection ends the live hook because the terminal runs another agent. -/
def replacesHook (s : TerminalState) (agent : Option Agent) (now : Instant) : Bool :=
  s.hookAuthorityNotNewerThan now &&
    (s.hookAuthorityConflictsWithDetectedAgent agent ||
      (s.detectedAgent.isSome && agent ≠ s.detectedAgent &&
        s.hookAuthority.any fun authority =>
          parseAgentLabel authority.agentLabel = s.detectedAgent))

/-- The end of the process that clears the authority of a full lifecycle suppresses its hooks. -/
lemma exitSuppressed_of_cleared {u : TerminalState} (hu : SameHooks s u) {agent : Option Agent}
    {now suppressedAt : Instant} {authority : HookAuthority}
    (ha : s.hookAuthority = some authority)
    (hfull : fullLifecycleHookAuthority authority.source authority.agentLabel)
    (hsafe : s.replacesHook agent now → parseAgentLabel authority.agentLabel = agent)
    (hcleared : ((u.clearExitedAgent agent true now suppressedAt).clearReplacedAgent
      s.detectedAgent agent now suppressedAt).hookAuthority = none) :
    ((u.clearExitedAgent agent true now suppressedAt).clearReplacedAgent s.detectedAgent agent now
      suppressedAt).ExitSuppressed authority.source authority.agentLabel := by
  have hua : u.hookAuthority = some authority := hu.authority.trans ha
  have hnewer : u.hookAuthorityNotNewerThan now = s.hookAuthorityNotNewerThan now := by
    rw [hookAuthorityNotNewerThan, hu.authority, hookAuthorityNotNewerThan]
  by_cases hexit : (u.hookAuthorityNotNewerThan now && decide
      (parseAgentLabel authority.agentLabel = agent)) = true
  · -- the hook is suppressed by the exit, and nothing is left for the replacement to end
    have hclear : (u.clearExitedAgent agent true now suppressedAt).hookAuthority = none ∧
        (u.clearExitedAgent agent true now suppressedAt).ExitSuppressed authority.source
          authority.agentLabel := by
      have hcond : (true && u.hookAuthorityNotNewerThan now && u.hookAuthority.any fun authority =>
          decide (parseAgentLabel authority.agentLabel = agent)) = true := by
        rw [hua, Option.any_some, Bool.true_and]
        exact hexit
      unfold TerminalState.clearExitedAgent suppressCurrentFullLifecycleHookAuthority
      dsimp only
      rw [if_pos hcond]
      simp only [hua, hfull, if_true]
      have hentry : (u.suppressedFullLifecycleHookReports.insert authority.source
          ⟨authority.agentLabel, authority.sessionRef, suppressedAt, .processExit⟩).lookup
            authority.source = some _ := AList.lookup_insert _
      split_ifs
      · exact ⟨rfl, _, hentry, rfl, rfl⟩
      · exact ⟨rfl, _, hentry, rfl, rfl⟩
    generalize u.clearExitedAgent agent true now suppressedAt = v at hclear ⊢
    unfold TerminalState.clearReplacedAgent suppressCurrentFullLifecycleHookAuthority
    dsimp only
    rw [hclear.1]
    split_ifs
    · exact hclear.2
    · exact hclear.2
  · -- the exit leaves the hook alone, so that the replacement ends it, which `hsafe` excludes
    exfalso
    have hcond : ¬(true && u.hookAuthorityNotNewerThan now && u.hookAuthority.any fun authority =>
        decide (parseAgentLabel authority.agentLabel = agent)) = true := by
      rw [hua, Option.any_some, Bool.true_and]
      exact hexit
    have hkept : (u.clearExitedAgent agent true now suppressedAt).hookAuthority =
        s.hookAuthority := by
      unfold TerminalState.clearExitedAgent
      dsimp only
      rw [if_neg hcond]
      split_ifs
      · exact hu.authority
      · exact hu.authority
    have hreplaces : (u.clearExitedAgent agent true now suppressedAt).hookAuthorityNotNewerThan
        now = s.hookAuthorityNotNewerThan now := by
      rw [hookAuthorityNotNewerThan, hkept, hookAuthorityNotNewerThan]
    generalize u.clearExitedAgent agent true now suppressedAt = v at hkept hreplaces hcleared
    unfold TerminalState.clearReplacedAgent at hcleared
    dsimp only at hcleared
    split_ifs at hcleared with hrep
    · have hs : s.replacesHook agent now = true := by
        rw [replacesHook, ← hrep, hreplaces, hookAuthorityConflictsWithDetectedAgent,
          hookAuthorityConflictsWithDetectedAgent, hkept]
      simp only [hnewer, hsafe hs, decide_true, Bool.and_true] at hexit
      exact hexit (Bool.and_eq_true_iff.mp hs).1
    · rw [hkept, ha] at hcleared
      cases hcleared

lemma exitSuppressed_of_exit {agent : Option Agent} {fallbackState : AgentState}
    {visibleBlocker visibleIdle visibleWorking : Bool} {now suppressedAt : Instant}
    {authority : HookAuthority} (ha : s.hookAuthority = some authority)
    (hfull : fullLifecycleHookAuthority authority.source authority.agentLabel)
    (hsafe : s.replacesHook agent now → parseAgentLabel authority.agentLabel = agent)
    (hcleared : (s.setDetectedStateWithScreenSignalsAt agent fallbackState visibleBlocker
      visibleIdle visibleWorking true now suppressedAt).1.hookAuthority = none) :
    (s.setDetectedStateWithScreenSignalsAt agent fallbackState visibleBlocker visibleIdle
      visibleWorking true now suppressedAt).1.ExitSuppressed authority.source
        authority.agentLabel := by
  have hnote : (s.setDetectedStateWithScreenSignalsAt agent fallbackState visibleBlocker
      visibleIdle visibleWorking true now suppressedAt).1 =
      ((s.noteDetectedState agent fallbackState visibleBlocker true now
        suppressedAt).recomputeEffectiveState (s.previousAt now) now).1 := by
    unfold setDetectedStateWithScreenSignalsAt shouldIgnoreDetectedStateUnderFullLifecycleHook
    simp
  rw [hnote] at hcleared ⊢
  have hsame := sameHooks_recompute (s.noteDetectedState agent fallbackState visibleBlocker true now
    suppressedAt) (s.previousAt now) now
  rw [hsame.authority] at hcleared
  refine hsame.exitSuppressed ?_
  unfold noteDetectedState at hcleared ⊢
  refine exitSuppressed_of_cleared ?_ ha hfull hsafe hcleared
  cases agent with
  | none => exact ⟨rfl, rfl, rfl⟩
  | some agent => exact ⟨rfl, rfl, rfl⟩

end Detections

/-! ### Reports -/

section Reports
variable {s : TerminalState}

/-- An operation behind the sequence check does nothing, or runs with the number recorded. -/
lemma onAcceptedHookReport_cases (s : TerminalState) (source : String) (seq : Option UInt64)
    (operation : TerminalState → TerminalState × Option TerminalStateMutation) :
    s.onAcceptedHookReport source seq operation = (s, none) ∨
    ((s.acceptHookReport source seq).2 = true ∧ ∃ sequences,
      s.onAcceptedHookReport source seq operation =
        operation { s with hookReportSequences := sequences }) := by
  unfold onAcceptedHookReport acceptHookReport
  cases seq with
  | none =>
    dsimp only
    cases hnone : (s.hookReportSequences.lookup source).isNone with
    | false => exact .inl rfl
    | true => exact .inr ⟨rfl, s.hookReportSequences, rfl⟩
  | some seq =>
    by_cases hstale : (s.hookReportSequences.lookup source).any fun lastSeq => seq ≤ lastSeq
    · simp only [if_pos hstale]
      exact .inl rfl
    · simp only [if_neg hstale]
      exact .inr ⟨trivial, s.hookReportSequences.insert source seq, rfl⟩

lemma sameOwnerSessionRef_full {source agentLabel : String} {sessionRef : AgentSessionRef}
    (h : (s.sameOwnerFullLifecycleHookAuthoritySessionRef source agentLabel sessionRef).isSome) :
    fullLifecycleHookAuthority source agentLabel := by
  unfold sameOwnerFullLifecycleHookAuthoritySessionRef at h
  cases ha : s.hookAuthority with
  | none =>
    rw [ha] at h
    cases h
  | some authority =>
    rw [ha] at h
    by_cases hno : (!fullLifecycleHookAuthority authority.source authority.agentLabel ||
        authority.source ≠ source || authority.agentLabel ≠ agentLabel) = true
    · simp only [Option.bind_eq_bind, Option.bind_some, if_pos hno] at h
      cases h
    · simp only [Bool.or_eq_true, not_or, Bool.not_eq_true', Bool.not_eq_false,
        decide_eq_true_eq, ne_eq, not_not] at hno
      obtain ⟨⟨hfull, rfl⟩, rfl⟩ := hno
      exact hfull

lemma LiveHookSound.noteAgentSessionRef (h : s.LiveHookSound) (session : PersistedAgentSession)
    (replacedHookSession : Option AgentSessionRef)
    (hreplaced : replacedHookSession.isSome →
      fullLifecycleHookAuthority session.source session.agent)
    (sessionReplacementAllowed foregroundTakeoverAllowed : Bool) (suppressedAt : Instant) :
    KeepsHooks s (s.noteAgentSessionRef session replacedHookSession sessionReplacementAllowed
      foregroundTakeoverAllowed suppressedAt) := by
  have hforget : KeepsHooks s (if sessionReplacementAllowed || foregroundTakeoverAllowed then
      s.forgetStaleFullLifecycleHookSession session.source session.agent session.sessionRef
      else s) := by
    split_ifs
    · refine ⟨h.forget _ _ _, fun source label he => ?_⟩
      rw [ExitSuppressed, (s.forget_hooks _ _ _).2]
      exact he
    · exact ⟨h, fun _ _ he => he⟩
  unfold TerminalState.noteAgentSessionRef
  dsimp only
  generalize (if sessionReplacementAllowed || foregroundTakeoverAllowed then
      s.forgetStaleFullLifecycleHookSession session.source session.agent session.sessionRef
      else s) = t at hforget ⊢
  refine hforget.trans ?_
  cases replacedHookSession with
  | some replaced =>
    have hfull := (hforget.1.entries.remember (hreplaced rfl) replaced)
    exact ⟨EntriesFull.sound_of_none ⟨hfull.suppressed_full, hfull.stale_full⟩ rfl,
      fun _ _ he => he⟩
  | none =>
    have hstale := (t.suppressCurrent_hookAuthority .hookClear suppressedAt).2
    dsimp only
    split_ifs
    · exact hforget.1.end_authority .hookClear suppressedAt rfl rfl hstale
    · exact SameHooks.keepsHooks ⟨rfl, rfl, rfl⟩ hforget.1

lemma LiveHookSound.setAgentSessionRef (h : s.LiveHookSound) (source agentLabel : String)
    (sessionRef : Option AgentSessionRef) (seq : Option UInt64)
    (sessionStartSource : Option String) (now suppressedAt : Instant) :
    KeepsHooks s (s.setAgentSessionRefForSessionStart source agentLabel sessionRef seq
      sessionStartSource now suppressedAt).1 := by
  unfold setAgentSessionRefForSessionStart
  cases sessionRef with
  | none => exact ⟨h, fun _ _ he => he⟩
  | some sessionRef =>
    dsimp only
    rcases s.onAcceptedHookReport_cases source seq _ with he | ⟨-, sequences, he⟩
    · rw [he]
      exact ⟨h, fun _ _ he => he⟩
    · rw [he]
      have hsame : SameHooks s { s with hookReportSequences := sequences } := ⟨rfl, rfl, rfl⟩
      refine (hsame.keepsHooks h).trans ?_
      have h' := hsame.sound h
      generalize { s with hookReportSequences := sequences } = s' at h' ⊢
      split_ifs with h₁ h₂ h₃ h₄
      · exact ⟨h', fun _ _ he => he⟩
      · exact ⟨h', fun _ _ he => he⟩
      · exact ⟨h', fun _ _ he => he⟩
      · exact ⟨h', fun _ _ he => he⟩
      · have hnoted := h'.noteAgentSessionRef ⟨source, agentLabel, sessionRef⟩
          (s'.sameOwnerFullLifecycleHookAuthoritySessionRef source agentLabel sessionRef)
          sameOwnerSessionRef_full
          (sessionStartSourceAllowsSessionReplacement source agentLabel sessionStartSource)
          (s'.currentSessionOwnerConflicts source agentLabel &&
            s'.foregroundAgentConfirmsDifferentOwnerTakeover source agentLabel sessionRef
              sessionStartSource) suppressedAt
        exact hnoted.trans ((sameHooks_recompute _ _ _).keepsHooks hnoted.1)

/-- A release is neither stale nor refused, and speaks for a source with a full lifecycle. -/
def appliesRelease (s : TerminalState) (source agentLabel : String) (seq : Option UInt64) : Bool :=
  (s.acceptHookReport source seq).2 && !s.refusesRelease source agentLabel &&
    fullLifecycleHookAuthority source agentLabel

lemma LiveHookSound.noteReleasedAgent (h : s.LiveHookSound) (source agentLabel : String)
    (suppressedAt : Instant) :
    (s.noteReleasedAgent source agentLabel suppressedAt).LiveHookSound ∧
    ∀ source' agentLabel', s.ExitSuppressed source' agentLabel' →
      ¬(fullLifecycleHookAuthority source agentLabel ∧ s.ExitSuppressed source agentLabel) →
      (s.noteReleasedAgent source agentLabel suppressedAt).ExitSuppressed source' agentLabel' := by
  unfold TerminalState.noteReleasedAgent suppressFullLifecycleHookReport
  dsimp only
  by_cases hfull : fullLifecycleHookAuthority source agentLabel
  · rw [if_pos hfull]
    have hentries := h.entries.suppress hfull (s.hookAuthority.bind (·.sessionRef)) .hookClear
      suppressedAt
    refine ⟨EntriesFull.sound_of_none ⟨hentries.suppressed_full, hentries.stale_full⟩ rfl, ?_⟩
    intro source' label' he hno
    obtain ⟨entry, hentry, rfl, hreason⟩ := he
    have hne : source' ≠ source := by
      rintro rfl
      have hlabel := fullLifecycleHookAuthority_inj (h.entries.suppressed_full _ entry hentry) hfull
      exact hno ⟨hfull, entry, hentry, hlabel, hreason⟩
    exact ⟨entry, (AList.lookup_insert_ne hne).trans hentry, rfl, hreason⟩
  · rw [if_neg hfull]
    exact ⟨EntriesFull.sound_of_none ⟨h.entries.suppressed_full, h.entries.stale_full⟩ rfl,
      fun _ _ he _ => he⟩

lemma LiveHookSound.releaseAgent (h : s.LiveHookSound) (source agentLabel : String)
    (seq : Option UInt64) (now suppressedAt : Instant) :
    (s.releaseAgentWithMutation source agentLabel seq now suppressedAt).1.LiveHookSound ∧
    ((s.appliesRelease source agentLabel seq → ¬s.ExitSuppressed source agentLabel) →
      ∀ source' agentLabel', s.ExitSuppressed source' agentLabel' →
        (s.releaseAgentWithMutation source agentLabel seq now suppressedAt).1.ExitSuppressed source'
          agentLabel') := by
  unfold releaseAgentWithMutation
  dsimp only
  rcases s.onAcceptedHookReport_cases source seq _ with he | ⟨haccept, sequences, he⟩
  · rw [he]
    exact ⟨h, fun _ _ _ he => he⟩
  · rw [he]
    have hsame : SameHooks s { s with hookReportSequences := sequences } := ⟨rfl, rfl, rfl⟩
    have hrefuses : ({ s with hookReportSequences := sequences } :
        TerminalState).refusesRelease source agentLabel = s.refusesRelease source agentLabel := rfl
    have h' := hsame.sound h
    have hexit : ∀ source' label', ExitSuppressed { s with hookReportSequences := sequences }
        source' label' ↔ s.ExitSuppressed source' label' := fun _ _ => Iff.rfl
    generalize { s with hookReportSequences := sequences } = s' at h' hrefuses hexit ⊢
    split_ifs with h₁ h₂
    · exact ⟨h', fun _ source' label' he => (hexit source' label').mpr he⟩
    · exact ⟨h', fun _ source' label' he => (hexit source' label').mpr he⟩
    · obtain ⟨hsound, hkeep⟩ := h'.noteReleasedAgent source agentLabel suppressedAt
      have hlast := (sameHooks_recompute (s'.noteReleasedAgent source agentLabel suppressedAt)
        (s'.previousAt now) now).keepsHooks hsound
      refine ⟨hlast.1, fun hclean source' label' he => hlast.2 source' label' ?_⟩
      refine hkeep source' label' ((hexit source' label').mpr he) fun ⟨hfull, hex⟩ => ?_
      refine hclean ?_ ((hexit source agentLabel).mp hex)
      rw [appliesRelease, haccept, hfull, ← hrefuses,
        s'.refusesRelease_eq_false_iff.mpr ⟨h₁, h₂⟩]
      rfl

lemma suppressCurrent_lookup_cases (s : TerminalState) (reason : FullLifecycleHookSuppressionReason)
    (suppressedAt : Instant) {source : String} {entry : SuppressedFullLifecycleHookReport}
    (he : (s.suppressCurrentFullLifecycleHookAuthority reason
      suppressedAt).suppressedFullLifecycleHookReports.lookup source = some entry) :
    s.suppressedFullLifecycleHookReports.lookup source = some entry ∨
    ∃ authority, s.hookAuthority = some authority ∧ authority.source = source ∧
      entry.agentLabel = authority.agentLabel ∧ entry.sessionRef = authority.sessionRef := by
  unfold suppressCurrentFullLifecycleHookAuthority at he
  split at he
  · exact .inl he
  · rename_i authority ha
    split at he
    · by_cases hsource : source = authority.source
      · have hentry : some _ = some entry :=
          (AList.lookup_insert (a := authority.source) _).symm.trans (hsource ▸ he)
        rw [Option.some.injEq] at hentry
        exact .inr ⟨authority, ha, hsource.symm, hentry ▸ rfl, hentry ▸ rfl⟩
      · exact .inl ((AList.lookup_insert_ne hsource).symm.trans he)
    · exact .inl he

/-- What a report with a session does to the suppressed report of its source. -/
lemma staleSuppressedSession_spec (h : s.EntriesFull) (source : String) :
    (s.staleSuppressedSession source).EntriesFull ∧
    (s.staleSuppressedSession source).suppressedFullLifecycleHookReports.lookup source = none ∧
    (∀ source', source' ≠ source →
      (s.staleSuppressedSession source).suppressedFullLifecycleHookReports.lookup source' =
        s.suppressedFullLifecycleHookReports.lookup source') ∧
    ∀ source' agentLabel sessionRef,
      (s.staleSuppressedSession source).ListedStale source' agentLabel sessionRef →
      s.ListedStale source' agentLabel sessionRef ∨
      (source' = source ∧ ∃ entry, s.suppressedFullLifecycleHookReports.lookup source = some entry ∧
        entry.agentLabel = agentLabel ∧ entry.sessionRef = some sessionRef) := by
  unfold staleSuppressedSession
  cases hlookup : s.suppressedFullLifecycleHookReports.lookup source with
  | none => exact ⟨h, hlookup, fun _ _ => rfl, fun _ _ _ hl => .inl hl⟩
  | some entry =>
    have herased : EntriesFull { s with suppressedFullLifecycleHookReports :=
        s.suppressedFullLifecycleHookReports.erase source } := by
      refine ⟨fun source' entry' he => ?_, h.stale_full⟩
      by_cases hsource : source' = source
      · subst hsource
        rw [AList.lookup_erase] at he
        cases he
      · exact h.suppressed_full source' entry' ((AList.lookup_erase_ne hsource).symm.trans he)
    dsimp only
    cases href : entry.sessionRef with
    | none =>
      exact ⟨herased, AList.lookup_erase _ _, fun _ hne => AList.lookup_erase_ne hne,
        fun _ _ _ hl => .inl hl⟩
    | some sessionRef =>
      refine ⟨herased.remember (h.suppressed_full source entry hlookup) sessionRef,
        AList.lookup_erase _ _, fun _ hne => AList.lookup_erase_ne hne, ?_⟩
      intro source' label ref hl
      rcases (listedStale_remember _ _ _ _).mp hl with hold | ⟨rfl, rfl, rfl⟩
      · exact .inl hold
      · exact .inr ⟨rfl, entry, rfl, rfl, href⟩

/-- What the checks of a hook report say about the authority it is recorded with. -/
structure AuthorityFits (s : TerminalState) (authority : HookAuthority)
    (foregroundTakeoverAllowed : Bool) : Prop where
  takeover_session : foregroundTakeoverAllowed → authority.sessionRef.isSome
  takeover_other : foregroundTakeoverAllowed → ∀ live, s.hookAuthority = some live →
    live.source = authority.source → live.agentLabel = authority.agentLabel →
    live.sessionRef = none
  unsuppressed : fullLifecycleHookAuthority authority.source authority.agentLabel →
    authority.sessionRef = none →
    s.suppressedFullLifecycleHookReports.lookup authority.source = none
  not_stale : ∀ sessionRef, authority.sessionRef = some sessionRef →
    ¬s.ListedStale authority.source authority.agentLabel sessionRef
  not_suppressed : ∀ sessionRef entry, authority.sessionRef = some sessionRef →
    s.suppressedFullLifecycleHookReports.lookup authority.source = some entry →
    entry.agentLabel = authority.agentLabel → entry.sessionRef ≠ some sessionRef

lemma LiveHookSound.noteHookAuthority (h : s.LiveHookSound) {authority : HookAuthority}
    {foregroundTakeoverAllowed : Bool} (hfit : s.AuthorityFits authority foregroundTakeoverAllowed)
    (suppressedAt : Instant) :
    (s.noteHookAuthority authority foregroundTakeoverAllowed suppressedAt).LiveHookSound ∧
    ∀ source agentLabel, s.ExitSuppressed source agentLabel →
      (authority.sessionRef.isSome → source ≠ authority.source) →
      (s.noteHookAuthority authority foregroundTakeoverAllowed suppressedAt).ExitSuppressed source
        agentLabel := by
  unfold TerminalState.noteHookAuthority
  dsimp only
  cases href : authority.sessionRef with
  | none =>
    have htake : foregroundTakeoverAllowed = false := by
      by_contra hno
      have := hfit.takeover_session (Bool.not_eq_false _ ▸ hno)
      rw [href] at this
      cases this
    rw [htake]
    refine ⟨⟨⟨h.entries.suppressed_full, h.entries.stale_full⟩, ?_, ?_⟩, fun _ _ he _ => he⟩
    · rintro live hlive hfull
      cases hlive
      exact hfit.unsuppressed hfull href
    · rintro live ref hlive hlref
      cases hlive
      rw [href] at hlref
      cases hlref
  | some sessionRef =>
    rw [Option.isSome_some, if_pos rfl]
    have h₁ : (if foregroundTakeoverAllowed then
        s.suppressCurrentFullLifecycleHookAuthority .hookClear suppressedAt else s).EntriesFull := by
      split_ifs
      · exact h.entries.suppressCurrent .hookClear suppressedAt
      · exact h.entries
    have hlisted : ∀ source label ref, (if foregroundTakeoverAllowed then
        s.suppressCurrentFullLifecycleHookAuthority .hookClear suppressedAt
        else s).ListedStale source label ref → s.ListedStale source label ref := by
      intro source label ref hl
      split_ifs at hl
      · rwa [ListedStale, (s.suppressCurrent_hookAuthority .hookClear suppressedAt).2] at hl
      · exact hl
    have hlookup : ∀ entry, (if foregroundTakeoverAllowed then
        s.suppressCurrentFullLifecycleHookAuthority .hookClear suppressedAt
        else s).suppressedFullLifecycleHookReports.lookup authority.source = some entry →
        entry.agentLabel = authority.agentLabel → entry.sessionRef ≠ some sessionRef := by
      intro entry he hlabel hentry
      split_ifs at he with htake
      · rcases suppressCurrent_lookup_cases s .hookClear suppressedAt he with
          hold | ⟨live, hlive, hsource, hlab, hsess⟩
        · exact hfit.not_suppressed sessionRef entry href hold hlabel hentry
        · have hnone := hfit.takeover_other htake live hlive hsource (hlab.symm.trans hlabel)
          rw [hsess, hnone] at hentry
          cases hentry
      · exact hfit.not_suppressed sessionRef entry href he hlabel hentry
    have hkept : ∀ source entry, s.suppressedFullLifecycleHookReports.lookup source = some entry →
        (if foregroundTakeoverAllowed then
          s.suppressCurrentFullLifecycleHookAuthority .hookClear suppressedAt
          else s).suppressedFullLifecycleHookReports.lookup source = some entry := by
      intro source entry he
      split_ifs
      · exact suppressCurrent_lookup h he .hookClear suppressedAt
      · exact he
    generalize (if foregroundTakeoverAllowed then
        s.suppressCurrentFullLifecycleHookAuthority .hookClear suppressedAt else s) = s₁
      at h₁ hlisted hlookup hkept ⊢
    obtain ⟨hfull, hnone, hother, hstale⟩ := staleSuppressedSession_spec h₁ authority.source
    refine ⟨⟨⟨hfull.suppressed_full, hfull.stale_full⟩, ?_, ?_⟩, fun source label he hne => ?_⟩
    · rintro live hlive -
      cases hlive
      exact hnone
    · rintro live ref hlive hlref hl
      cases hlive
      rw [href, Option.some.injEq] at hlref
      subst hlref
      rcases hstale _ _ _ hl with hold | ⟨-, entry, he, hlabel, hentry⟩
      · exact hfit.not_stale sessionRef href (hlisted _ _ _ hold)
      · exact hlookup entry he hlabel hentry
    · obtain ⟨entry, hentry, hrest⟩ := he
      exact ⟨entry, (hother source (hne rfl)).trans (hkept source entry hentry), hrest⟩

/-- The stored session a hook report is taken for when it names another one. -/
def mappedSession (s : TerminalState) (source agentLabel : String)
    (sessionRef : Option AgentSessionRef) : Option AgentSessionRef :=
  sessionRef.bind fun sessionRef =>
    if s.lifecycleHookReportReplacesPersistedSession source agentLabel sessionRef then none
    else s.conflictingSameOwnerSessionRef source agentLabel sessionRef none

/-- A hook report passes every check of `set_hook_authority_at`. -/
def acceptsAuthority (s : TerminalState) (source agentLabel : String)
    (sessionRef : Option AgentSessionRef) (seq : Option UInt64) : Bool :=
  !s.fullLifecycleHookReportIsSuppressed source agentLabel sessionRef &&
    !s.fullLifecycleHookReportMatchesStaleSession source agentLabel sessionRef &&
    !s.knownAgentLabelConflictsWithDetectedAgent agentLabel &&
    !(s.currentSessionOwnerConflicts source agentLabel &&
      !s.foregroundAgentConfirmsHookAuthorityTakeover source agentLabel sessionRef) &&
    !s.liveFullLifecycleHookAuthorityConflictsWithSession source agentLabel
      (s.hookReportSessionRef source agentLabel sessionRef) &&
    (s.fullLifecycleHookReportHasFreshSessionAfterSuppression source agentLabel sessionRef ||
      s.fullLifecycleHookReportHasFreshSessionAfterStaleSession source agentLabel sessionRef ||
      (s.acceptHookReport source seq).2)

lemma setHookAuthorityAt_cases (s : TerminalState) (source agentLabel : String) (state : AgentState)
    (message : Option String) (sessionRef : Option AgentSessionRef) (seq : Option UInt64)
    (now suppressedAt : Instant) :
    SameHooks s (s.setHookAuthorityAt source agentLabel state message sessionRef seq now
      suppressedAt).1 ∨
    (s.acceptsAuthority source agentLabel sessionRef seq = true ∧ ∃ sequences previous,
      (s.setHookAuthorityAt source agentLabel state message sessionRef seq now suppressedAt).1 =
        ((({ s with hookReportSequences := sequences } : TerminalState).noteHookAuthority
          ⟨source, agentLabel, state, message, now,
            s.hookReportSessionRef source agentLabel sessionRef⟩
          (s.currentSessionOwnerConflicts source agentLabel &&
            s.foregroundAgentConfirmsHookAuthorityTakeover source agentLabel sessionRef)
          suppressedAt).recomputeEffectiveState previous now).1) := by
  unfold setHookAuthorityAt acceptsAuthority
  dsimp only
  split_ifs with h₁ h₂ h₃ h₄ h₅ h₆
  · exact .inl ⟨rfl, rfl, rfl⟩
  · exact .inl ⟨rfl, rfl, rfl⟩
  · exact .inl ⟨rfl, rfl, rfl⟩
  · exact .inl ⟨rfl, rfl, rfl⟩
  · exact .inl ⟨rfl, rfl, rfl⟩
  all_goals
    simp only [Bool.not_eq_true] at h₁ h₂ h₃ h₅
    have h₄' : (s.currentSessionOwnerConflicts source agentLabel &&
        !s.foregroundAgentConfirmsHookAuthorityTakeover source agentLabel sessionRef) = false := by
      cases hown : s.currentSessionOwnerConflicts source agentLabel <;> simp_all
    rw [h₁, h₂, h₃, h₄', h₅]
  · rcases onAcceptedHookReport_cases _ source seq _ with he | ⟨-, sequences, he⟩
    · rw [he]
      exact .inl ⟨rfl, rfl, rfl⟩
    · rw [he]
      exact .inr ⟨by simp [h₆], sequences, _, rfl⟩
  · rcases onAcceptedHookReport_cases _ source seq _ with he | ⟨haccept, sequences, he⟩
    · rw [he]
      exact .inl ⟨rfl, rfl, rfl⟩
    · rw [he]
      exact .inr ⟨by simp [haccept], sequences, _, rfl⟩

/-- The session a hook report is recorded with is the reported or the mapped one. -/
lemma hookReportSessionRef_cases {source agentLabel : String} {sessionRef : Option AgentSessionRef}
    {recorded : AgentSessionRef}
    (h : s.hookReportSessionRef source agentLabel sessionRef = some recorded) :
    sessionRef = some recorded ∨ s.mappedSession source agentLabel sessionRef = some recorded := by
  unfold hookReportSessionRef at h
  cases sessionRef with
  | none => cases h
  | some reported =>
    rw [Option.map_some, Option.some.injEq] at h
    rw [mappedSession, Option.bind_some]
    split_ifs at h ⊢
    · exact .inl (congrArg some h)
    · cases hmap : s.conflictingSameOwnerSessionRef source agentLabel reported none with
      | none => exact .inl (congrArg some (by simpa [hmap] using h))
      | some mapped => exact .inr (congrArg some (by simpa [hmap] using h))

lemma not_listedStale_of_matches (h : s.EntriesFull) {source agentLabel : String}
    {sessionRef : AgentSessionRef}
    (hno : s.fullLifecycleHookReportMatchesStaleSession source agentLabel (some sessionRef) = false) :
    ¬s.ListedStale source agentLabel sessionRef := by
  intro hl
  have hfull := h.stale_full source agentLabel sessionRef hl
  obtain ⟨sessions, hlookup, hmem⟩ := hl
  simp only [fullLifecycleHookReportMatchesStaleSession, hfull, hlookup, Bool.not_true,
    Bool.false_eq_true, if_false, Option.any_some, List.any_eq_false] at hno
  exact hno _ hmem (by simp)

lemma entry_ne_of_not_suppressed (h : s.EntriesFull) {source agentLabel : String}
    {sessionRef : AgentSessionRef}
    (hno : s.fullLifecycleHookReportIsSuppressed source agentLabel (some sessionRef) = false)
    {entry : SuppressedFullLifecycleHookReport}
    (he : s.suppressedFullLifecycleHookReports.lookup source = some entry)
    (hlabel : entry.agentLabel = agentLabel) : entry.sessionRef ≠ some sessionRef := by
  intro href
  have hfull := hlabel ▸ h.suppressed_full source entry he
  simp only [fullLifecycleHookReportIsSuppressed, hfull, he, hlabel, href, Bool.not_true,
    Bool.false_eq_true, if_false, Option.any_some, ne_eq, not_true_eq_false, decide_true] at hno
  split_ifs at hno

/-- Without a session a hook report of the suppressed agent is always suppressed. -/
lemma lookup_eq_none_of_not_suppressed (h : s.EntriesFull) {source agentLabel : String}
    (hfull : fullLifecycleHookAuthority source agentLabel)
    (hno : s.fullLifecycleHookReportIsSuppressed source agentLabel none = false) :
    s.suppressedFullLifecycleHookReports.lookup source = none := by
  cases he : s.suppressedFullLifecycleHookReports.lookup source with
  | none => rfl
  | some entry =>
    have hlabel := fullLifecycleHookAuthority_inj (h.suppressed_full source entry he) hfull
    simp only [fullLifecycleHookReportIsSuppressed, hfull, he, hlabel, Bool.not_true,
      Bool.false_eq_true, if_false, Option.any_some, ne_eq, not_true_eq_false] at hno
    split_ifs at hno
    cases href : entry.sessionRef with
    | none => simp [href] at hno
    | some sessionRef => simp [href] at hno

/-- A report of the exited agent is suppressed whatever session it names. -/
lemma ExitSuppressed.isSuppressed (h : s.EntriesFull) {source agentLabel : String}
    (he : s.ExitSuppressed source agentLabel) (sessionRef : Option AgentSessionRef) :
    s.fullLifecycleHookReportIsSuppressed source agentLabel sessionRef = true := by
  obtain ⟨entry, hentry, rfl, hreason⟩ := he
  simp [fullLifecycleHookReportIsSuppressed, h.suppressed_full source entry hentry, hentry, hreason]

lemma LiveHookSound.authorityFits (h : s.LiveHookSound) {source agentLabel : String}
    {state : AgentState} {message : Option String} {sessionRef : Option AgentSessionRef}
    {seq : Option UInt64} {now : Instant}
    (haccept : s.acceptsAuthority source agentLabel sessionRef seq = true)
    (hmapped : ∀ mapped, s.mappedSession source agentLabel sessionRef = some mapped →
      s.fullLifecycleHookReportIsSuppressed source agentLabel (some mapped) = false ∧
      s.fullLifecycleHookReportMatchesStaleSession source agentLabel (some mapped) = false) :
    s.AuthorityFits ⟨source, agentLabel, state, message, now,
        s.hookReportSessionRef source agentLabel sessionRef⟩
      (s.currentSessionOwnerConflicts source agentLabel &&
        s.foregroundAgentConfirmsHookAuthorityTakeover source agentLabel sessionRef) := by
  simp only [acceptsAuthority, Bool.and_eq_true, Bool.not_eq_true'] at haccept
  obtain ⟨⟨⟨⟨⟨hsuppressed, hstale⟩, -⟩, -⟩, -⟩, -⟩ := haccept
  have hchecked : ∀ recorded, s.hookReportSessionRef source agentLabel sessionRef = some recorded →
      s.fullLifecycleHookReportIsSuppressed source agentLabel (some recorded) = false ∧
      s.fullLifecycleHookReportMatchesStaleSession source agentLabel (some recorded) = false := by
    intro recorded hrecorded
    rcases hookReportSessionRef_cases hrecorded with hsame | hmap
    · exact hsame ▸ ⟨hsuppressed, hstale⟩
    · exact hmapped recorded hmap
  refine ⟨fun htake => ?_, fun htake live hlive hsource hlabel => ?_, fun hfull hnone => ?_,
    fun recorded hrecorded => ?_, fun recorded entry hrecorded he hlabel => ?_⟩
  · have hconfirm := (Bool.and_eq_true_iff.mp htake).2
    unfold foregroundAgentConfirmsHookAuthorityTakeover at hconfirm
    cases sessionRef with
    | none => cases hconfirm
    | some sessionRef => rfl
  · have hconflict := (Bool.and_eq_true_iff.mp htake).1
    cases href : live.sessionRef with
    | none => rfl
    | some sessionRef =>
      simp only at hsource hlabel
      simp [currentSessionOwnerConflicts, currentSessionIdentityForPersistence, hlive, href,
        hsource, hlabel] at hconflict
  · cases sessionRef with
    | none => exact lookup_eq_none_of_not_suppressed h.entries hfull hsuppressed
    | some sessionRef => cases hnone
  · exact not_listedStale_of_matches h.entries (hchecked recorded hrecorded).2
  · exact entry_ne_of_not_suppressed h.entries (hchecked recorded hrecorded).1 he hlabel

/-- A hook report that meets the condition keeps the hooks in order. -/
lemma LiveHookSound.setHookAuthority {s : TerminalState} (h : s.LiveHookSound)
    {source agentLabel : String} {sessionRef : Option AgentSessionRef} {seq : Option UInt64}
    (hsafe : s.acceptsAuthority source agentLabel sessionRef seq →
      (sessionRef.isSome → ∀ other, ¬s.ExitSuppressed source other) ∧
      ∀ mapped, s.mappedSession source agentLabel sessionRef = some mapped →
        s.fullLifecycleHookReportIsSuppressed source agentLabel (some mapped) = false ∧
        s.fullLifecycleHookReportMatchesStaleSession source agentLabel (some mapped) = false)
    (state : AgentState) (message : Option String) (now suppressedAt : Instant) :
    KeepsHooks s (s.setHookAuthorityAt source agentLabel state message sessionRef seq now
      suppressedAt).1 := by
  rcases setHookAuthorityAt_cases s source agentLabel state message sessionRef seq now
    suppressedAt with hsame | ⟨haccept, sequences, previous, he⟩
  · exact hsame.keepsHooks h
  · rw [he]
    obtain ⟨hexit, hmapped⟩ := hsafe haccept
    have hsame : SameHooks s { s with hookReportSequences := sequences } := ⟨rfl, rfl, rfl⟩
    have hfit : s.AuthorityFits ⟨source, agentLabel, state, message, now,
        s.hookReportSessionRef source agentLabel sessionRef⟩
      (s.currentSessionOwnerConflicts source agentLabel &&
        s.foregroundAgentConfirmsHookAuthorityTakeover source agentLabel sessionRef) :=
      h.authorityFits haccept hmapped
    have hfit' : AuthorityFits { s with hookReportSequences := sequences } _ _ :=
      ⟨hfit.takeover_session, hfit.takeover_other, hfit.unsuppressed, hfit.not_stale,
        hfit.not_suppressed⟩
    obtain ⟨hsound, hkeep⟩ := (hsame.sound h).noteHookAuthority hfit' suppressedAt
    have hlast := (sameHooks_recompute _ previous now).keepsHooks hsound
    refine ⟨hlast.1, fun source' label' hex => hlast.2 source' label' ?_⟩
    refine hkeep source' label' (hsame.exitSuppressed hex) fun hsome heq => ?_
    have hsource : source' = source := heq
    refine hexit ?_ label' (hsource ▸ hex)
    simpa [hookReportSessionRef] using hsome

end Reports

end TerminalState

/-! ### Runs -/

namespace TerminalOp
open TerminalState

/-- The reports of an agent's hooks and the detections of its process. -/
def IsHookOp : TerminalOp → Prop
  | .setDetectedStateWithScreenSignalsAt .. => True
  | .setHookAuthorityAt .. => True
  | .setAgentSessionRefForSessionStart .. => True
  | .releaseAgentWithMutation .. => True
  | _ => False

/-- An accepted report with a session does not come from a source suppressed by the end of an agent,
and is not taken for a session that is itself suppressed or stale; an accepted release does not
replace the suppression by the end of its agent; a process that ends is the one of the live hook,
unless the detection leaves that hook alone. -/
def HookSafe (s : TerminalState) : TerminalOp → Prop
  | .setDetectedStateWithScreenSignalsAt agent _ _ _ _ processExited now _ =>
    processExited → s.replacesHook agent now → ∀ authority, s.hookAuthority = some authority →
      parseAgentLabel authority.agentLabel = agent
  | .setHookAuthorityAt source agentLabel _ _ sessionRef seq _ _ =>
    s.acceptsAuthority source agentLabel sessionRef seq →
      (sessionRef.isSome → ∀ other, ¬s.ExitSuppressed source other) ∧
      ∀ mapped, s.mappedSession source agentLabel sessionRef = some mapped →
        s.fullLifecycleHookReportIsSuppressed source agentLabel (some mapped) = false ∧
        s.fullLifecycleHookReportMatchesStaleSession source agentLabel (some mapped) = false
  | .releaseAgentWithMutation source agentLabel seq _ _ =>
    s.appliesRelease source agentLabel seq → ¬s.ExitSuppressed source agentLabel
  | _ => True

/-- A detection without the end of a process newly identifies the agent of the label. -/
def NewlyIdentifies (s : TerminalState) (label : String) : TerminalOp → Prop
  | .setDetectedStateWithScreenSignalsAt agent _ _ _ _ processExited _ _ =>
    processExited = false ∧ Lifts s.detectedAgent agent label
  | _ => False

def HookStep (s : TerminalState) (op : TerminalOp) (t : TerminalState) : Prop :=
  op.IsHookOp ∧ op.HookSafe s ∧ t = op.apply s

/-- A step that does not newly identify the agent of the label. -/
def UnidentifiedStep (label : String) (s : TerminalState) (op : TerminalOp) (t : TerminalState) :
    Prop :=
  op.HookStep s t ∧ ¬op.NewlyIdentifies s label

end TerminalOp

open TerminalOp TerminalState

lemma TerminalOp.HookStep.sound {s t : TerminalState} {op : TerminalOp} (hs : op.HookStep s t)
    (h : s.LiveHookSound) :
    t.LiveHookSound ∧ ∀ source agentLabel, s.ExitSuppressed source agentLabel →
      ¬op.NewlyIdentifies s agentLabel → t.ExitSuppressed source agentLabel := by
  obtain ⟨hop, hsafe, rfl⟩ := hs
  cases op with
  | setDetectedStateWithScreenSignalsAt agent fallbackState visibleBlocker visibleIdle
      visibleWorking processExited now suppressedAt =>
    exact h.setDetectedState agent fallbackState visibleBlocker visibleIdle visibleWorking
      processExited now suppressedAt
  | setHookAuthorityAt source agentLabel state message sessionRef seq now suppressedAt =>
    have hkeep := h.setHookAuthority hsafe state message now suppressedAt
    exact ⟨hkeep.1, fun source' label' he _ => hkeep.2 source' label' he⟩
  | setAgentSessionRefForSessionStart source agentLabel sessionRef seq sessionStartSource now
      suppressedAt =>
    have hkeep := h.setAgentSessionRef source agentLabel sessionRef seq sessionStartSource now
      suppressedAt
    exact ⟨hkeep.1, fun source' label' he _ => hkeep.2 source' label' he⟩
  | releaseAgentWithMutation source agentLabel seq now suppressedAt =>
    have hkeep := h.releaseAgent source agentLabel seq now suppressedAt
    exact ⟨hkeep.1, fun source' label' he _ => hkeep.2 hsafe source' label' he⟩
  | clearHookAuthorityWithMutation => cases hop
  | setAgentMetadata => cases hop
  | expireAgentMetadataAt => cases hop
  | setPersistedAgentSession => cases hop
  | clearAgentRuntimeIdentityAfterRespawn => cases hop

/-- The end of a process clears the authority of the source for the agent of the label. -/
def TerminalOp.EndsHook (s : TerminalState) (source agentLabel : String) (t : TerminalState) :
    TerminalOp → Prop
  | .setDetectedStateWithScreenSignalsAt _ _ _ _ _ processExited _ _ =>
    processExited = true ∧ (∃ authority, s.hookAuthority = some authority ∧
      authority.source = source ∧ authority.agentLabel = agentLabel) ∧ t.hookAuthority = none
  | _ => False

lemma TerminalOp.HookStep.exitSuppressed {s t : TerminalState} {op : TerminalOp} (hs : op.HookStep s t)
    {source agentLabel : String} (hfull : fullLifecycleHookAuthority source agentLabel)
    (hends : op.EndsHook s source agentLabel t) : t.ExitSuppressed source agentLabel := by
  obtain ⟨-, hsafe, rfl⟩ := hs
  cases op with
  | setDetectedStateWithScreenSignalsAt agent fallbackState visibleBlocker visibleIdle
      visibleWorking processExited now suppressedAt =>
    obtain ⟨rfl, ⟨authority, ha, rfl, rfl⟩, hcleared⟩ := hends
    exact exitSuppressed_of_exit ha hfull (fun hr => hsafe rfl hr authority ha) hcleared
  | setHookAuthorityAt => cases hends
  | setAgentSessionRefForSessionStart => cases hends
  | releaseAgentWithMutation => cases hends
  | clearHookAuthorityWithMutation => cases hends
  | setAgentMetadata => cases hends
  | expireAgentMetadataAt => cases hends
  | setPersistedAgentSession => cases hends
  | clearAgentRuntimeIdentityAfterRespawn => cases hends

lemma TerminalOp.UnidentifiedStep.run {s t : TerminalState} {ops : List TerminalOp} {source label : String}
    (hrun : Run (UnidentifiedStep label) s ops t)
    (hs : s.LiveHookSound ∧ s.ExitSuppressed source label) :
    t.LiveHookSound ∧ t.ExitSuppressed source label := by
  have hkept : ∀ u op v, u.LiveHookSound ∧ u.ExitSuppressed source label →
      UnidentifiedStep label u op v → v.LiveHookSound ∧ v.ExitSuppressed source label := by
    intro u op v hu hstep
    obtain ⟨hsound, hkeep⟩ := hstep.1.sound hu.1
    exact ⟨hsound, hkeep source label hu.2 hstep.2⟩
  exact hrun.invariant hkept hs

/-- After the end of an agent its hooks stay unheard until the agent is newly identified, and the
session of the live hook is never a stale one. -/
theorem suppression_of_run {s₀ s : TerminalState} {ops : List TerminalOp}
    (hauthority : s₀.hookAuthority = none) (hsuppressed : s₀.suppressedFullLifecycleHookReports = ∅)
    (hstale : s₀.staleFullLifecycleHookSessions = ∅) (hrun : Run HookStep s₀ ops s) :
    (∀ authority sessionRef, s.hookAuthority = some authority →
      authority.sessionRef = some sessionRef →
      ¬s.ListedStale authority.source authority.agentLabel sessionRef) ∧
    ∀ op t source agentLabel, HookStep s op t → fullLifecycleHookAuthority source agentLabel →
      op.EndsHook s source agentLabel t →
      ∀ ops' u, Run (UnidentifiedStep agentLabel) t ops' u →
      ∀ state message sessionRef seq now suppressedAt,
        u.setHookAuthorityAt source agentLabel state message sessionRef seq now suppressedAt =
          (u, none) := by
  have hnew : s₀.LiveHookSound := by
    refine EntriesFull.sound_of_none ⟨fun source entry he => ?_, fun source label ref hl => ?_⟩
      hauthority
    · rw [hsuppressed] at he
      cases he
    · obtain ⟨sessions, hlookup, -⟩ := hl
      rw [hstale] at hlookup
      cases hlookup
  have hkept : ∀ u op v, u.LiveHookSound → HookStep u op v → v.LiveHookSound :=
    fun u op v hu hstep => (hstep.sound hu).1
  have hsound : s.LiveHookSound := hrun.invariant hkept hnew
  refine ⟨hsound.live_not_stale, fun op t source label hstep hfull hends ops' u hrun' => ?_⟩
  have hstart := hstep.exitSuppressed hfull hends
  obtain ⟨husound, hu⟩ := UnidentifiedStep.run hrun' ⟨(hstep.sound hsound).1, hstart⟩
  intro state message sessionRef seq now suppressedAt
  rw [TerminalState.setHookAuthorityAt, if_pos (hu.isSuppressed husound.entries sessionRef)]

/-- An agent that runs under the hook of its source. -/
def startedAgent : List TerminalOp :=
  [.setDetectedStateWithScreenSignalsAt (some .pi) .idle false true false false 1 1,
    .setHookAuthorityAt "herdr:pi" "pi" .working none (some ⟨.id, "a"⟩) none 2 2]

def endedProcess : TerminalOp :=
  .setDetectedStateWithScreenSignalsAt (some .pi) .unknown false false false true 3 3

/-- A release after the end of the agent makes its source heard again; and a report of a second
session is taken for a stored session that it makes stale at once. -/
theorem endedAgent_heard_again :
    (TerminalState.after (startedAgent ++ [endedProcess])).hookAuthority = none ∧
    ((TerminalState.after (startedAgent ++ [endedProcess,
      .releaseAgentWithMutation "herdr:pi" "pi" none 4 4])).setHookAuthorityAt "herdr:pi" "pi"
        .working none (some ⟨.id, "b"⟩) none 5 5).2.isSome ∧
    (TerminalState.after (startedAgent ++
      [.setDetectedStateWithScreenSignalsAt (some .claude) .idle false true false false 3 3,
        .setDetectedStateWithScreenSignalsAt none .unknown false false false false 4 4,
        .setHookAuthorityAt "herdr:pi" "pi" .working none (some ⟨.id, "b"⟩) none 5
          5])).hookAuthority.any (fun authority => authority.sessionRef = some ⟨.id, "a"⟩ ∧
            authority.source = "herdr:pi" ∧ authority.agentLabel = "pi") ∧
    (TerminalState.after (startedAgent ++
      [.setDetectedStateWithScreenSignalsAt (some .claude) .idle false true false false 3 3,
        .setDetectedStateWithScreenSignalsAt none .unknown false false false false 4 4,
        .setHookAuthorityAt "herdr:pi" "pi" .working none (some ⟨.id, "b"⟩) none 5
          5])).staleFullLifecycleHookSessions.lookup "herdr:pi" =
      some [⟨"pi", ⟨.id, "a"⟩⟩] := by
  decide

/-- The rule on an agent that ends: a report of its next session is not heard. -/
theorem suppression_of_run_ended :
    ((TerminalState.after (startedAgent ++ [endedProcess])).setHookAuthorityAt "herdr:pi" "pi"
      .working none (some ⟨.id, "b"⟩) none 5 5).2 = none := by
  have hrun : Run HookStep .new startedAgent (TerminalState.after startedAgent) := by
    refine .cons ⟨trivial, fun (hexit : false = true) => (nomatch hexit), rfl⟩
      (.cons ⟨trivial, fun _ => ⟨fun _ other hex => ?_, fun mapped hmap => ?_⟩, rfl⟩ (.nil _))
    · obtain ⟨entry, hentry, -⟩ := hex
      have hnone : (TerminalOp.apply .new (.setDetectedStateWithScreenSignalsAt (some .pi) .idle
          false true false false 1 1)).suppressedFullLifecycleHookReports.lookup "herdr:pi" =
            none := by
        decide
      rw [hnone] at hentry
      cases hentry
    · have hnone : (TerminalOp.apply .new (.setDetectedStateWithScreenSignalsAt (some .pi) .idle
          false true false false 1 1)).mappedSession "herdr:pi" "pi" (some ⟨.id, "a"⟩) = none := by
        decide
      rw [hnone] at hmap
      cases hmap
  have hpi : (TerminalState.after startedAgent).hookAuthority =
      some ⟨"herdr:pi", "pi", .working, none, 2, some ⟨.id, "a"⟩⟩ := by
    decide
  have hstep : HookStep (TerminalState.after startedAgent) endedProcess
      (TerminalState.after (startedAgent ++ [endedProcess])) := by
    refine ⟨trivial, fun _ _ authority ha => ?_, by rw [TerminalState.after, List.foldl_append]; rfl⟩
    rw [hpi, Option.some.injEq] at ha
    rw [← ha]
    decide
  have hends : endedProcess.EndsHook (TerminalState.after startedAgent) "herdr:pi" "pi"
      (TerminalState.after (startedAgent ++ [endedProcess])) :=
    ⟨rfl, ⟨_, hpi, rfl, rfl⟩, by decide⟩
  rw [(suppression_of_run rfl rfl rfl hrun).2 endedProcess _ "herdr:pi" "pi" hstep (by decide)
    hends [] _ (.nil _)]

end Ork3.Terminal
