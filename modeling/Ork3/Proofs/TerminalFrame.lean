import Ork3.Model.TerminalOperations

/-!
# What hook and session reports leave alone

A hook report, a session report or a detection changes the evidence about the agent. The cached
state and the metadata that was reported stay as they are until the recomputation.
-/

namespace Ork3.Terminal

open Ork3.Library

namespace TerminalState

/-- What only the recomputation and the metadata reports write. -/
structure Kept where
  state : AgentState
  agentMetadata : Table String AgentMetadata
  metadataReportSequences : Table String UInt64

def kept (s : TerminalState) : Kept :=
  ⟨s.state, s.agentMetadata, s.metadataReportSequences⟩

section
variable (s : TerminalState)

@[simp]
lemma kept_suppressFullLifecycleHookReportWithSessionRef (source agentLabel : String)
    (sessionRef : Option AgentSessionRef) (reason : FullLifecycleHookSuppressionReason)
    (suppressedAt : Instant) :
    (s.suppressFullLifecycleHookReportWithSessionRef source agentLabel sessionRef reason
      suppressedAt).kept = s.kept := rfl

@[simp]
lemma kept_suppressCurrentFullLifecycleHookAuthority
    (reason : FullLifecycleHookSuppressionReason) (suppressedAt : Instant) :
    (s.suppressCurrentFullLifecycleHookAuthority reason suppressedAt).kept = s.kept := by
  unfold suppressCurrentFullLifecycleHookAuthority
  split
  · rfl
  · split
    · rfl
    · rfl

@[simp]
lemma kept_suppressFullLifecycleHookReport (source agentLabel : String)
    (reason : FullLifecycleHookSuppressionReason) (suppressedAt : Instant) :
    (s.suppressFullLifecycleHookReport source agentLabel reason suppressedAt).kept = s.kept := by
  unfold suppressFullLifecycleHookReport
  split
  · rfl
  · rfl

@[simp]
lemma kept_rememberStaleFullLifecycleHookSession (source agentLabel : String)
    (sessionRef : AgentSessionRef) :
    (s.rememberStaleFullLifecycleHookSession source agentLabel sessionRef).kept = s.kept := rfl

@[simp]
lemma kept_forgetStaleFullLifecycleHookSession (source agentLabel : String)
    (sessionRef : AgentSessionRef) :
    (s.forgetStaleFullLifecycleHookSession source agentLabel sessionRef).kept = s.kept := by
  unfold forgetStaleFullLifecycleHookSession
  split
  · rfl
  · dsimp only
    split
    · rfl
    · rfl

lemma kept_foldl_remember (stale : List (String × String × AgentSessionRef)) :
    (stale.foldl (fun s (source, agentLabel, sessionRef) =>
      s.rememberStaleFullLifecycleHookSession source agentLabel sessionRef) s).kept = s.kept := by
  induction stale generalizing s with
  | nil => rfl
  | cons x stale ih =>
    rw [List.foldl_cons, ih]
    rfl

@[simp]
lemma kept_clearFullLifecycleHookSuppressionForDetectedAgent
    (previousDetectedAgent detectedAgent : Option Agent) :
    (s.clearFullLifecycleHookSuppressionForDetectedAgent previousDetectedAgent
      detectedAgent).kept = s.kept := by
  unfold clearFullLifecycleHookSuppressionForDetectedAgent
  split
  · rfl
  · split
    · rfl
    · exact kept_foldl_remember _ _

@[simp]
lemma kept_clearExitedAgent (agent : Option Agent) (processExited : Bool)
    (now suppressedAt : Instant) :
    (s.clearExitedAgent agent processExited now suppressedAt).kept = s.kept := by
  have hended (t : TerminalState) (sequences : Table String UInt64)
      (authority : Option HookAuthority) :
      ({ t with hookReportSequences := sequences, hookAuthority := authority } :
        TerminalState).kept = t.kept := rfl
  have hforgotten (t : TerminalState) :
      ({ t with persistedAgentSession := none } : TerminalState).kept = t.kept := rfl
  unfold clearExitedAgent
  dsimp only
  split_ifs
  · rw [hforgotten, hended, kept_suppressCurrentFullLifecycleHookAuthority]
  · rw [hended, kept_suppressCurrentFullLifecycleHookAuthority]
  · rfl
  · rfl

@[simp]
lemma kept_clearReplacedAgent (previousDetectedAgent agent : Option Agent)
    (now suppressedAt : Instant) :
    (s.clearReplacedAgent previousDetectedAgent agent now suppressedAt).kept = s.kept := by
  unfold clearReplacedAgent
  dsimp only
  split_ifs
  · exact kept_suppressCurrentFullLifecycleHookAuthority s _ _
  · rfl

lemma kept_noteDetectedState (agent : Option Agent) (fallbackState : AgentState)
    (visibleBlocker processExited : Bool) (now suppressedAt : Instant) :
    (s.noteDetectedState agent fallbackState visibleBlocker processExited now
      suppressedAt).kept = s.kept := by
  have hdetected :
      ({ s with detectedAgent := agent } : TerminalState).kept = s.kept := rfl
  have hlifted := (kept_clearFullLifecycleHookSuppressionForDetectedAgent
    { s with detectedAgent := agent } s.detectedAgent agent).trans hdetected
  unfold noteDetectedState
  simp only [kept_clearReplacedAgent, kept_clearExitedAgent]
  split_ifs
  all_goals first | exact hlifted | rfl

@[simp]
lemma kept_staleSuppressedSession (source : String) :
    (s.staleSuppressedSession source).kept = s.kept := by
  unfold staleSuppressedSession
  split
  · rfl
  · dsimp only
    split
    · rfl
    · rfl

lemma kept_noteHookAuthority (authority : HookAuthority) (foregroundTakeoverAllowed : Bool)
    (suppressedAt : Instant) :
    (s.noteHookAuthority authority foregroundTakeoverAllowed suppressedAt).kept = s.kept := by
  unfold noteHookAuthority
  dsimp only
  split_ifs
  · exact (kept_staleSuppressedSession _ _).trans
      (kept_suppressCurrentFullLifecycleHookAuthority s _ _)
  · exact kept_staleSuppressedSession s _
  · exact kept_suppressCurrentFullLifecycleHookAuthority s _ _
  · rfl

lemma kept_noteClearedHookAuthority (suppressedAt : Instant) :
    (s.noteClearedHookAuthority suppressedAt).kept = s.kept :=
  kept_suppressCurrentFullLifecycleHookAuthority s _ _

lemma kept_noteReleasedAgent (source agentLabel : String) (suppressedAt : Instant) :
    (s.noteReleasedAgent source agentLabel suppressedAt).kept = s.kept :=
  kept_suppressFullLifecycleHookReport s _ _ _ _

lemma kept_noteAgentSessionRef (session : PersistedAgentSession)
    (replacedHookSession : Option AgentSessionRef)
    (sessionReplacementAllowed foregroundTakeoverAllowed : Bool) (suppressedAt : Instant) :
    (s.noteAgentSessionRef session replacedHookSession sessionReplacementAllowed
      foregroundTakeoverAllowed suppressedAt).kept = s.kept := by
  have hforgotten : (if (sessionReplacementAllowed || foregroundTakeoverAllowed) = true then
      s.forgetStaleFullLifecycleHookSession session.source session.agent session.sessionRef
      else s).kept = s.kept := by
    split
    · exact kept_forgetStaleFullLifecycleHookSession s _ _ _
    · rfl
  unfold noteAgentSessionRef
  cases replacedHookSession with
  | none =>
    dsimp only
    cases foregroundTakeoverAllowed with
    | false => exact hforgotten
    | true => exact (kept_suppressCurrentFullLifecycleHookAuthority _ _ _).trans hforgotten
  | some replacedHookSession => exact hforgotten

end

/-! ### Properties of what is kept -/

/-- A property that sequence numbers, a persisted session and recomputations preserve. -/
structure Recomputed (P : TerminalState → Prop) : Prop where
  sequences : ∀ (s : TerminalState) (sequences : Table String UInt64), P s →
    P { s with hookReportSequences := sequences }
  session : ∀ (s : TerminalState) (session : PersistedAgentSession), P s →
    P (s.setPersistedAgentSession session)
  recompute : ∀ (s t : TerminalState) (previous : Previous) (now : Instant), P s →
    t.kept = s.kept → previous.state = s.state → P (t.recomputeEffectiveState previous now).1

namespace Recomputed
variable {P : TerminalState → Prop} {s : TerminalState}

lemma acceptHookReport (hP : Recomputed P) (h : P s) (source : String) (seq : Option UInt64) :
    P (s.acceptHookReport source seq).1 := by
  unfold TerminalState.acceptHookReport
  cases seq with
  | none => exact h
  | some seq =>
    dsimp only
    split
    · exact h
    · exact hP.sequences s _ h

lemma onAcceptedHookReport (hP : Recomputed P) (h : P s) (source : String) (seq : Option UInt64)
    {operation : TerminalState → TerminalState × Option TerminalStateMutation}
    (hop : ∀ t : TerminalState, P t → P (operation t).1) :
    P (s.onAcceptedHookReport source seq operation).1 := by
  have haccept := hP.acceptHookReport h source seq
  unfold TerminalState.onAcceptedHookReport
  dsimp only
  split
  · exact haccept
  · exact hop _ haccept

lemma reported (hP : Recomputed P) (h : P s) {noted : TerminalState} (hkept : noted.kept = s.kept)
    (now : Instant) : P (s.reported noted now).1 :=
  hP.recompute s noted _ now h hkept rfl

lemma setDetectedState (hP : Recomputed P) (h : P s) (agent : Option Agent)
    (fallbackState : AgentState) (visibleBlocker visibleIdle visibleWorking processExited : Bool)
    (now suppressedAt : Instant) :
    P (s.setDetectedStateWithScreenSignalsAt agent fallbackState visibleBlocker visibleIdle
      visibleWorking processExited now suppressedAt).1 := by
  unfold setDetectedStateWithScreenSignalsAt
  refine hP.recompute s _ _ now h ?_ rfl
  split_ifs
  · rfl
  · rfl
  · rfl
  · exact s.kept_noteDetectedState ..

lemma setHookAuthorityAt (hP : Recomputed P) (h : P s) (source agentLabel : String)
    (state : AgentState) (message : Option String) (sessionRef : Option AgentSessionRef)
    (seq : Option UInt64) (now suppressedAt : Instant) :
    P (s.setHookAuthorityAt source agentLabel state message sessionRef seq now
      suppressedAt).1 := by
  have hnote (authority : HookAuthority) (takeover : Bool) (t : TerminalState) (ht : P t) :
      P (t.reported (t.noteHookAuthority authority takeover suppressedAt) now).1 :=
    hP.reported ht (t.kept_noteHookAuthority ..) now
  unfold TerminalState.setHookAuthorityAt
  dsimp only
  split_ifs
  · exact h
  · exact h
  · exact h
  · exact h
  · exact h
  · have herase := hP.sequences s (s.hookReportSequences.erase source) h
    exact hP.onAcceptedHookReport herase source seq fun t ht => hnote _ _ t ht
  · exact hP.onAcceptedHookReport h source seq fun t ht => hnote _ _ t ht

lemma clearHookAuthorityWithMutation (hP : Recomputed P) (h : P s) (source : Option String)
    (seq : Option UInt64) (now suppressedAt : Instant) :
    P (s.clearHookAuthorityWithMutation source seq now suppressedAt).1 := by
  have hclear (t : TerminalState) (ht : P t) :
      P ((t.noteClearedHookAuthority suppressedAt).recomputeEffectiveState (t.previousAt now)
        now).1 :=
    hP.recompute t _ _ now ht (t.kept_noteClearedHookAuthority suppressedAt) rfl
  unfold TerminalState.clearHookAuthorityWithMutation
  split
  · dsimp only
    split
    · exact h
    · exact hclear s h
  · refine hP.onAcceptedHookReport h _ seq fun t ht => ?_
    dsimp only
    split
    · exact ht
    · exact hclear t ht

lemma releaseAgentWithMutation (hP : Recomputed P) (h : P s) (source agentLabel : String)
    (seq : Option UInt64) (now suppressedAt : Instant) :
    P (s.releaseAgentWithMutation source agentLabel seq now suppressedAt).1 := by
  refine hP.onAcceptedHookReport h source seq fun t ht => ?_
  dsimp only
  split_ifs
  · exact ht
  · exact ht
  · exact hP.reported ht (t.kept_noteReleasedAgent source agentLabel suppressedAt) now

lemma setAgentSessionRefForSessionStart (hP : Recomputed P) (h : P s)
    (source agentLabel : String) (sessionRef : Option AgentSessionRef) (seq : Option UInt64)
    (sessionStartSource : Option String) (now suppressedAt : Instant) :
    P (s.setAgentSessionRefForSessionStart source agentLabel sessionRef seq sessionStartSource
      now suppressedAt).1 := by
  cases sessionRef with
  | none => exact h
  | some sessionRef =>
    refine hP.onAcceptedHookReport h source seq fun t ht => ?_
    dsimp only
    split_ifs
    · exact ht
    · exact ht
    · exact ht
    · exact ht
    · exact hP.reported ht (t.kept_noteAgentSessionRef ..) now

end Recomputed

end TerminalState

end Ork3.Terminal
