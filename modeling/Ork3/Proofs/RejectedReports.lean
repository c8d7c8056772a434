import Ork3.Model.TerminalOperations

/-!
# Rejected reports

A hook report is checked before its sequence number is recorded. The other reports are checked after
it, so that some of them are rejected with the number already recorded.
-/

namespace Ork3.Terminal
open Ork3.Library

/-- A report of an agent's hooks with the instants it is handled at. -/
inductive HookReport
  | authority (source agentLabel : String) (state : AgentState) (message : Option String)
      (sessionRef : Option AgentSessionRef) (seq : Option UInt64) (now suppressedAt : Instant)
  | sessionStart (source agentLabel : String) (sessionRef : Option AgentSessionRef)
      (seq : Option UInt64) (sessionStartSource : Option String) (now suppressedAt : Instant)
  | clear (source : Option String) (seq : Option UInt64) (now suppressedAt : Instant)
  | release (source agentLabel : String) (seq : Option UInt64) (now suppressedAt : Instant)

def HookReport.apply (s : TerminalState) :
    HookReport → TerminalState × Option TerminalStateMutation
  | .authority source agentLabel state message sessionRef seq now suppressedAt =>
    s.setHookAuthorityAt source agentLabel state message sessionRef seq now suppressedAt
  | .sessionStart source agentLabel sessionRef seq sessionStartSource now suppressedAt =>
    s.setAgentSessionRefForSessionStart source agentLabel sessionRef seq sessionStartSource now
      suppressedAt
  | .clear source seq now suppressedAt =>
    s.clearHookAuthorityWithMutation source seq now suppressedAt
  | .release source agentLabel seq now suppressedAt =>
    s.releaseAgentWithMutation source agentLabel seq now suppressedAt

namespace TerminalState

/-! ### The checks of a report's content -/

/-- `set_agent_session_ref_for_session_start` refuses the report for what it says. -/
def refusesSessionStart (s : TerminalState) (source agentLabel : String)
    (sessionRef : AgentSessionRef) (sessionStartSource : Option String) : Bool :=
  s.knownAgentLabelConflictsWithDetectedAgent agentLabel ||
    (s.currentSessionOwnerConflicts source agentLabel &&
      !s.foregroundAgentConfirmsDifferentOwnerTakeover source agentLabel sessionRef
        sessionStartSource) ||
    (s.conflictingSameOwnerSessionRef source agentLabel sessionRef sessionStartSource).isSome ||
    ((s.sameOwnerFullLifecycleHookAuthoritySessionRef source agentLabel sessionRef).isSome &&
      !sessionStartSourceAllowsSessionReplacement source agentLabel sessionStartSource)

/-- `clear_hook_authority` finds nothing to clear. -/
def refusesClear (s : TerminalState) (source : Option String) : Bool :=
  !s.hookAuthority.any fun authority => source.all fun source => authority.source = source

/-- `release_agent` refuses the report for what it says. -/
def refusesRelease (s : TerminalState) (source agentLabel : String) : Bool :=
  (s.hookAuthority.any fun authority =>
    authority.agentLabel ≠ agentLabel || authority.source ≠ source) ||
    (s.effectiveAgentLabel ≠ some agentLabel && !s.persistedAgentSessionMatches source agentLabel)

/-- The report carries a sequence number above the one recorded for the source. -/
def sequenceAdvances (s : TerminalState) (source : String) (seq : Option UInt64) : Bool :=
  seq.any fun seq => (s.hookReportSequences.lookup source).all fun last => last < seq

end TerminalState

/-- The report is refused for its content once its sequence number has been recorded. -/
def HookReport.refusedAfterRecording (s : TerminalState) : HookReport → Bool
  | .authority .. => false
  | .sessionStart source agentLabel sessionRef seq sessionStartSource _ _ =>
    sessionRef.any fun sessionRef => s.sequenceAdvances source seq &&
      s.refusesSessionStart source agentLabel sessionRef sessionStartSource
  | .clear source seq _ _ =>
    (source.or (s.hookAuthority.map (·.source))).any fun sequenceSource =>
      s.sequenceAdvances sequenceSource seq && s.refusesClear source
  | .release source agentLabel seq _ _ =>
    s.sequenceAdvances source seq && s.refusesRelease source agentLabel

namespace TerminalState

/-! ### Recording a sequence number -/

section Recording
variable (s : TerminalState) (source : String)

lemma insert_sequence_ne {seq : UInt64}
    (h : (s.hookReportSequences.lookup source).all fun last => last < seq) :
    { s with hookReportSequences := s.hookReportSequences.insert source seq } ≠ s := by
  intro he
  have hlookup : s.hookReportSequences.lookup source = some seq := by
    have hl := congrArg (fun t : TerminalState => t.hookReportSequences.lookup source) he
    simpa using hl.symm
  rw [hlookup] at h
  simp at h

/-- An operation behind the sequence check that either refuses and does nothing, or reports. -/
lemma onAcceptedHookReport_unchanged_iff (seq : Option UInt64)
    {operation : TerminalState → TerminalState × Option TerminalStateMutation} {refused : Bool}
    (hrefused : refused = true → ∀ sequences,
      operation { s with hookReportSequences := sequences } =
        ({ s with hookReportSequences := sequences }, none))
    (haccepted : refused = false → ∀ sequences,
      (operation { s with hookReportSequences := sequences }).2 ≠ none) :
    ((s.onAcceptedHookReport source seq operation).2 = none →
      (s.onAcceptedHookReport source seq operation).1 = s) ↔
    (s.sequenceAdvances source seq && refused) = false := by
  unfold onAcceptedHookReport acceptHookReport sequenceAdvances
  cases seq with
  | none =>
    refine iff_of_true (fun hnone => ?_) rfl
    cases hlookup : s.hookReportSequences.lookup source with
    | some last => simp
    | none =>
      cases refused with
      | true => simpa [hlookup] using congrArg Prod.fst (hrefused rfl s.hookReportSequences)
      | false => exact absurd (by simpa [hlookup] using hnone) (haccepted rfl s.hookReportSequences)
  | some seq =>
    dsimp only
    by_cases hstale : (s.hookReportSequences.lookup source).any fun last => seq ≤ last
    · refine iff_of_true (fun _ => by simp [hstale]) ?_
      cases hlookup : s.hookReportSequences.lookup source with
      | none => simp [hlookup] at hstale
      | some last =>
        rw [hlookup, Option.any_some, decide_eq_true_eq] at hstale
        simp [UInt64.not_lt.mpr hstale]
    · have hfresh : (s.hookReportSequences.lookup source).all fun last => last < seq := by
        cases hlookup : s.hookReportSequences.lookup source with
        | none => rfl
        | some last => simpa [hlookup] using hstale
      have hne := s.insert_sequence_ne source hfresh
      rw [if_neg hstale, Option.any_some, hfresh, Bool.true_and]
      cases refused with
      | true =>
        rw [if_neg (by simp), hrefused rfl]
        exact iff_of_false (fun h => hne (h rfl)) (by simp)
      | false =>
        refine iff_of_true (fun hnone => absurd hnone ?_) rfl
        exact haccepted rfl _

end Recording

/-! ### The four reports -/

section Reports
variable (s : TerminalState)

lemma setHookAuthorityAt_unchanged (source agentLabel : String) (state : AgentState)
    (message : Option String) (sessionRef : Option AgentSessionRef) (seq : Option UInt64)
    (now suppressedAt : Instant)
    (h : (s.setHookAuthorityAt source agentLabel state message sessionRef seq now
      suppressedAt).2 = none) :
    (s.setHookAuthorityAt source agentLabel state message sessionRef seq now suppressedAt).1 = s := by
  unfold setHookAuthorityAt at h ⊢
  dsimp only at h ⊢
  split_ifs at h ⊢ with h₁ h₂ h₃ h₄ h₅ h₆
  · rfl
  · rfl
  · rfl
  · rfl
  · rfl
  · -- without a recorded number every sequence number is accepted
    unfold onAcceptedHookReport acceptHookReport at h
    cases seq with
    | none => simp [reported] at h
    | some seq => simp [reported] at h
  · refine (@onAcceptedHookReport_unchanged_iff s source seq _ false ?_ ?_).mpr ?_ h
    · intro hrefused
      cases hrefused
    · intro _ sequences hnone
      cases hnone
    · exact Bool.and_false _

/-- The four checks of `set_agent_session_ref_for_session_start`, as it makes them. -/
lemma refusesSessionStart_eq_false_iff {source agentLabel : String} {sessionRef : AgentSessionRef}
    {sessionStartSource : Option String} :
    s.refusesSessionStart source agentLabel sessionRef sessionStartSource = false ↔
      ¬s.knownAgentLabelConflictsWithDetectedAgent agentLabel ∧
      ¬(s.currentSessionOwnerConflicts source agentLabel &&
        !(s.currentSessionOwnerConflicts source agentLabel &&
          s.foregroundAgentConfirmsDifferentOwnerTakeover source agentLabel sessionRef
            sessionStartSource)) ∧
      ¬(s.conflictingSameOwnerSessionRef source agentLabel sessionRef sessionStartSource).isSome ∧
      ¬((s.sameOwnerFullLifecycleHookAuthoritySessionRef source agentLabel sessionRef).isSome &&
        !sessionStartSourceAllowsSessionReplacement source agentLabel sessionStartSource) := by
  unfold refusesSessionStart
  cases s.currentSessionOwnerConflicts source agentLabel with
  | false => simp [and_assoc]
  | true => simp [and_assoc]

lemma setAgentSessionRef_unchanged_iff (source agentLabel : String) (sessionRef : AgentSessionRef)
    (seq : Option UInt64) (sessionStartSource : Option String) (now suppressedAt : Instant) :
    ((s.setAgentSessionRefForSessionStart source agentLabel (some sessionRef) seq
        sessionStartSource now suppressedAt).2 = none →
      (s.setAgentSessionRefForSessionStart source agentLabel (some sessionRef) seq
        sessionStartSource now suppressedAt).1 = s) ↔
    (s.sequenceAdvances source seq &&
      s.refusesSessionStart source agentLabel sessionRef sessionStartSource) = false := by
  refine s.onAcceptedHookReport_unchanged_iff source seq ?_ ?_
  · intro hrefused sequences
    dsimp only
    split_ifs with h₁ h₂ h₃ h₄
    · rfl
    · rfl
    · rfl
    · rfl
    · rw [s.refusesSessionStart_eq_false_iff.mpr ⟨h₁, h₂, h₃, h₄⟩] at hrefused
      cases hrefused
  · intro haccepted sequences
    obtain ⟨h₁, h₂, h₃, h₄⟩ := s.refusesSessionStart_eq_false_iff.mp haccepted
    dsimp only
    split_ifs with k₁ k₂ k₃ k₄
    · exact absurd k₁ h₁
    · exact absurd k₂ h₂
    · exact absurd k₃ h₃
    · exact absurd k₄ h₄
    · exact Option.some_ne_none _

lemma clearHookAuthority_unchanged_iff (source : Option String) (seq : Option UInt64)
    (now suppressedAt : Instant) :
    ((s.clearHookAuthorityWithMutation source seq now suppressedAt).2 = none →
      (s.clearHookAuthorityWithMutation source seq now suppressedAt).1 = s) ↔
    ((source.or (s.hookAuthority.map (·.source))).any fun sequenceSource =>
      s.sequenceAdvances sequenceSource seq && s.refusesClear source) = false := by
  unfold clearHookAuthorityWithMutation
  dsimp only
  cases source.or (s.hookAuthority.map (·.source)) with
  | none =>
    refine iff_of_true (fun hnone => ?_) rfl
    dsimp only at hnone ⊢
    split_ifs at hnone ⊢
    rfl
  | some sequenceSource =>
    refine s.onAcceptedHookReport_unchanged_iff sequenceSource seq ?_ ?_
    · intro hrefused sequences
      exact if_pos hrefused
    · intro haccepted sequences
      change (if s.refusesClear source then _ else _ : TerminalState × Option _).2 ≠ none
      rw [haccepted]
      exact Option.some_ne_none _

lemma refusesRelease_eq_false_iff {source agentLabel : String} :
    s.refusesRelease source agentLabel = false ↔
      ¬(s.hookAuthority.any fun authority =>
        authority.agentLabel ≠ agentLabel || authority.source ≠ source) ∧
      ¬(¬s.effectiveAgentLabel = some agentLabel ∧
        ¬s.persistedAgentSessionMatches source agentLabel) := by
  unfold refusesRelease
  rw [Bool.or_eq_false_iff, Bool.not_eq_true]
  refine and_congr_right' ?_
  simp

lemma releaseAgent_unchanged_iff (source agentLabel : String) (seq : Option UInt64)
    (now suppressedAt : Instant) :
    ((s.releaseAgentWithMutation source agentLabel seq now suppressedAt).2 = none →
      (s.releaseAgentWithMutation source agentLabel seq now suppressedAt).1 = s) ↔
    (s.sequenceAdvances source seq && s.refusesRelease source agentLabel) = false := by
  refine s.onAcceptedHookReport_unchanged_iff source seq ?_ ?_
  · intro hrefused sequences
    dsimp only
    split_ifs with h₁ h₂
    · rfl
    · rfl
    · rw [s.refusesRelease_eq_false_iff.mpr ⟨h₁, h₂⟩] at hrefused
      cases hrefused
  · intro haccepted sequences
    obtain ⟨h₁, h₂⟩ := s.refusesRelease_eq_false_iff.mp haccepted
    dsimp only
    rw [if_neg h₁]
    split_ifs with k₂
    · exact absurd k₂ h₂
    · exact Option.some_ne_none _

end Reports

end TerminalState

/-- A rejected report leaves the terminal as it was unless it was refused for its content after its
sequence number had been recorded. -/
theorem hookReport_unchanged_iff (s : TerminalState) (report : HookReport) :
    ((report.apply s).2 = none → (report.apply s).1 = s) ↔
      report.refusedAfterRecording s = false := by
  cases report with
  | authority source agentLabel state message sessionRef seq now suppressedAt =>
    refine iff_of_true ?_ rfl
    exact s.setHookAuthorityAt_unchanged source agentLabel state message sessionRef seq now
      suppressedAt
  | sessionStart source agentLabel sessionRef seq sessionStartSource now suppressedAt =>
    cases sessionRef with
    | none => exact iff_of_true (fun _ => rfl) rfl
    | some sessionRef =>
      exact s.setAgentSessionRef_unchanged_iff source agentLabel sessionRef seq sessionStartSource
        now suppressedAt
  | clear source seq now suppressedAt =>
    exact s.clearHookAuthority_unchanged_iff source seq now suppressedAt
  | release source agentLabel seq now suppressedAt =>
    exact s.releaseAgent_unchanged_iff source agentLabel seq now suppressedAt

/-- A release that has nothing to release makes the first hook report of its source unheard. -/
theorem refusedRelease_drops_report :
    ((HookReport.release "herdr:pi" "pi" (some 5) 0 0).apply .new).2 = none ∧
    ((HookReport.release "herdr:pi" "pi" (some 5) 0 0).apply .new).1 ≠ .new ∧
    ((HookReport.authority "herdr:pi" "pi" .working none none (some 5) 1 1).apply .new).2 ≠ none ∧
    ((HookReport.authority "herdr:pi" "pi" .working none none (some 5) 1 1).apply
      ((HookReport.release "herdr:pi" "pi" (some 5) 0 0).apply .new).1).2 = none := by
  refine ⟨rfl, fun he => ?_, ?_, rfl⟩
  · have hlookup := congrArg (fun s : TerminalState => s.hookReportSequences.lookup "herdr:pi") he
    exact absurd hlookup (by decide +kernel)
  · exact Option.some_ne_none _

end Ork3.Terminal
