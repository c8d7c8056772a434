import Ork3.Library.Run
import Ork3.Proofs.RejectedReports

/-!
# Suppressed hooks and stale sessions

The sources with a full lifecycle keep a suppressed report after their agent is gone, and a list of
sessions that are over. Both tables mention such sources only, and neither mentions the source whose
authority is live.
-/

namespace Ork3.Terminal
open Ork3.Library

/-- A source reports the whole life of one agent only. -/
lemma fullLifecycleHookAuthority_inj {source label label' : String}
    (h : fullLifecycleHookAuthority source label) (h' : fullLifecycleHookAuthority source label') :
    label = label' := by
  simp only [fullLifecycleHookAuthority, List.mem_cons, List.not_mem_nil, or_false,
    Prod.mk.injEq, decide_eq_true_eq] at h h'
  rcases h with ⟨rfl, rfl⟩ | ⟨rfl, rfl⟩ | ⟨rfl, rfl⟩ | ⟨rfl, rfl⟩ | ⟨rfl, rfl⟩ | ⟨rfl, rfl⟩ |
    ⟨rfl, rfl⟩ <;> simp_all

namespace TerminalState

/-- The session reference is listed as stale for the source and the label. -/
def ListedStale (s : TerminalState) (source agentLabel : String) (sessionRef : AgentSessionRef) :
    Prop :=
  ∃ sessions, s.staleFullLifecycleHookSessions.lookup source = some sessions ∧
    ⟨agentLabel, sessionRef⟩ ∈ sessions

/-- The entries of both tables belong to sources with a full lifecycle. -/
structure EntriesFull (s : TerminalState) : Prop where
  suppressed_full : ∀ source entry,
    s.suppressedFullLifecycleHookReports.lookup source = some entry →
      fullLifecycleHookAuthority source entry.agentLabel
  stale_full : ∀ source agentLabel sessionRef, s.ListedStale source agentLabel sessionRef →
    fullLifecycleHookAuthority source agentLabel

/-- The hook authority, when it is live, is neither suppressed nor for a stale session. -/
structure LiveHookSound (s : TerminalState) : Prop where
  entries : s.EntriesFull
  live_unsuppressed : ∀ authority, s.hookAuthority = some authority →
    fullLifecycleHookAuthority authority.source authority.agentLabel →
    s.suppressedFullLifecycleHookReports.lookup authority.source = none
  live_not_stale : ∀ authority sessionRef, s.hookAuthority = some authority →
    authority.sessionRef = some sessionRef →
    ¬s.ListedStale authority.source authority.agentLabel sessionRef

/-- The hooks of the source are suppressed by the end of the process of this agent. -/
def ExitSuppressed (s : TerminalState) (source agentLabel : String) : Prop :=
  ∃ entry, s.suppressedFullLifecycleHookReports.lookup source = some entry ∧
    entry.agentLabel = agentLabel ∧ entry.reason = .processExit

/-- The two states have the same hook authority and the same hook tables. -/
structure SameHooks (s t : TerminalState) : Prop where
  authority : t.hookAuthority = s.hookAuthority
  suppressed : t.suppressedFullLifecycleHookReports = s.suppressedFullLifecycleHookReports
  stale : t.staleFullLifecycleHookSessions = s.staleFullLifecycleHookSessions

section Frame
variable {s t : TerminalState}

lemma SameHooks.listedStale (h : SameHooks s t) {source agentLabel : String}
    {sessionRef : AgentSessionRef} :
    t.ListedStale source agentLabel sessionRef ↔ s.ListedStale source agentLabel sessionRef := by
  rw [ListedStale, h.stale, ListedStale]

lemma SameHooks.entriesFull (h : SameHooks s t) (hs : s.EntriesFull) : t.EntriesFull :=
  ⟨fun source entry he => hs.suppressed_full source entry (h.suppressed ▸ he),
    fun source label ref hl => hs.stale_full source label ref (h.listedStale.mp hl)⟩

lemma SameHooks.sound (h : SameHooks s t) (hs : s.LiveHookSound) : t.LiveHookSound := by
  refine ⟨h.entriesFull hs.entries, fun authority ha hfull => ?_, fun authority ref ha href => ?_⟩
  · rw [h.suppressed]
    exact hs.live_unsuppressed authority (h.authority ▸ ha) hfull
  · rw [h.listedStale]
    exact hs.live_not_stale authority ref (h.authority ▸ ha) href

lemma SameHooks.exitSuppressed (h : SameHooks s t) {source agentLabel : String}
    (hs : s.ExitSuppressed source agentLabel) : t.ExitSuppressed source agentLabel := by
  rw [ExitSuppressed, h.suppressed]
  exact hs

/-- Without an authority only the entries matter. -/
lemma EntriesFull.sound_of_none (hs : s.EntriesFull) (ha : s.hookAuthority = none) :
    s.LiveHookSound := by
  refine ⟨hs, fun authority hau => ?_, fun authority ref hau => ?_⟩
  · rw [ha] at hau
    cases hau
  · rw [ha] at hau
    cases hau

/-- The arbitration at the end of an operation touches none of the hook tables. -/
lemma sameHooks_recompute (s : TerminalState) (previous : Previous) (now : Instant) :
    SameHooks s (s.recomputeEffectiveState previous now).1 := by
  unfold recomputeEffectiveState
  dsimp only
  split_ifs
  · exact ⟨rfl, rfl, rfl⟩
  · exact ⟨rfl, rfl, rfl⟩

end Frame

/-! ### Entries come and go -/

section Entries
variable {s : TerminalState}

lemma EntriesFull.suppress (h : s.EntriesFull) {source agentLabel : String}
    (hfull : fullLifecycleHookAuthority source agentLabel) (sessionRef : Option AgentSessionRef)
    (reason : FullLifecycleHookSuppressionReason) (suppressedAt : Instant) :
    (s.suppressFullLifecycleHookReportWithSessionRef source agentLabel sessionRef reason
      suppressedAt).EntriesFull := by
  refine ⟨fun source' entry he => ?_, h.stale_full⟩
  by_cases hsource : source' = source
  · subst hsource
    have hentry : some _ = some entry := (AList.lookup_insert _).symm.trans he
    rw [Option.some.injEq] at hentry
    rw [← hentry]
    exact hfull
  · exact h.suppressed_full source' entry ((AList.lookup_insert_ne hsource).symm.trans he)

lemma EntriesFull.suppressCurrent (h : s.EntriesFull) (reason : FullLifecycleHookSuppressionReason)
    (suppressedAt : Instant) :
    (s.suppressCurrentFullLifecycleHookAuthority reason suppressedAt).EntriesFull := by
  unfold suppressCurrentFullLifecycleHookAuthority
  split
  · exact h
  · split
    · rename_i hfull
      exact h.suppress hfull _ reason suppressedAt
    · exact h

lemma suppressCurrent_hookAuthority (s : TerminalState)
    (reason : FullLifecycleHookSuppressionReason) (suppressedAt : Instant) :
    (s.suppressCurrentFullLifecycleHookAuthority reason suppressedAt).hookAuthority =
        s.hookAuthority ∧
      (s.suppressCurrentFullLifecycleHookAuthority reason
        suppressedAt).staleFullLifecycleHookSessions = s.staleFullLifecycleHookSessions := by
  unfold suppressCurrentFullLifecycleHookAuthority
  split
  · exact ⟨rfl, rfl⟩
  · split
    · exact ⟨rfl, rfl⟩
    · exact ⟨rfl, rfl⟩

/-- Suppressing the live authority leaves the suppression of other sources as it was. -/
lemma suppressCurrent_lookup (h : s.LiveHookSound) {source : String}
    {entry : SuppressedFullLifecycleHookReport}
    (he : s.suppressedFullLifecycleHookReports.lookup source = some entry)
    (reason : FullLifecycleHookSuppressionReason) (suppressedAt : Instant) :
    (s.suppressCurrentFullLifecycleHookAuthority reason
      suppressedAt).suppressedFullLifecycleHookReports.lookup source = some entry := by
  unfold suppressCurrentFullLifecycleHookAuthority
  split
  · exact he
  · rename_i authority ha
    split
    · rename_i hfull
      have hne : source ≠ authority.source := by
        rintro rfl
        rw [h.live_unsuppressed authority ha hfull] at he
        cases he
      exact (AList.lookup_insert_ne hne).trans he
    · exact he

lemma listedStale_remember (s : TerminalState) (source agentLabel : String)
    (sessionRef : AgentSessionRef) {source' agentLabel' : String} {sessionRef' : AgentSessionRef} :
    (s.rememberStaleFullLifecycleHookSession source agentLabel sessionRef).ListedStale source'
        agentLabel' sessionRef' ↔
      s.ListedStale source' agentLabel' sessionRef' ∨
      (source' = source ∧ agentLabel' = agentLabel ∧ sessionRef' = sessionRef) := by
  unfold rememberStaleFullLifecycleHookSession ListedStale
  dsimp only
  by_cases hsource : source' = source
  · subst hsource
    simp only [AList.lookup_insert, Option.some.injEq, exists_eq_left', true_and]
    cases hl : s.staleFullLifecycleHookSessions.lookup source' with
    | none => simp
    | some sessions =>
      rw [Option.getD_some]
      split_ifs with hc
      · simp only [Option.some.injEq, exists_eq_left']
        refine ⟨.inl, fun hor => ?_⟩
        rcases hor with hmem | ⟨rfl, rfl⟩
        · exact hmem
        · simpa using hc
      · simp [StaleFullLifecycleHookSession.mk.injEq]
  · simp only [AList.lookup_insert_ne hsource, hsource, false_and, or_false]

lemma EntriesFull.remember (h : s.EntriesFull) {source agentLabel : String}
    (hfull : fullLifecycleHookAuthority source agentLabel) (sessionRef : AgentSessionRef) :
    (s.rememberStaleFullLifecycleHookSession source agentLabel sessionRef).EntriesFull := by
  refine ⟨h.suppressed_full, fun source' label' ref' hl => ?_⟩
  rcases (s.listedStale_remember source agentLabel sessionRef).mp hl with hold | ⟨rfl, rfl, -⟩
  · exact h.stale_full source' label' ref' hold
  · exact hfull

lemma listedStale_of_forget {source agentLabel : String} {sessionRef : AgentSessionRef}
    {source' agentLabel' : String} {sessionRef' : AgentSessionRef}
    (hl : (s.forgetStaleFullLifecycleHookSession source agentLabel sessionRef).ListedStale source'
      agentLabel' sessionRef') : s.ListedStale source' agentLabel' sessionRef' := by
  unfold forgetStaleFullLifecycleHookSession at hl
  split at hl
  · exact hl
  · rename_i sessions hsessions
    dsimp only at hl
    split at hl
    · obtain ⟨sessions', hlookup, hmem⟩ := hl
      by_cases hsource : source' = source
      · subst hsource
        rw [AList.lookup_erase] at hlookup
        cases hlookup
      · exact ⟨sessions', (AList.lookup_erase_ne hsource).symm.trans hlookup, hmem⟩
    · obtain ⟨sessions', hlookup, hmem⟩ := hl
      by_cases hsource : source' = source
      · subst hsource
        rw [AList.lookup_insert, Option.some.injEq] at hlookup
        subst hlookup
        exact ⟨sessions, hsessions, (List.mem_filter.mp hmem).1⟩
      · exact ⟨sessions', (AList.lookup_insert_ne hsource).symm.trans hlookup, hmem⟩

lemma forget_hooks (s : TerminalState) (source agentLabel : String) (sessionRef : AgentSessionRef) :
    (s.forgetStaleFullLifecycleHookSession source agentLabel sessionRef).hookAuthority =
        s.hookAuthority ∧
      (s.forgetStaleFullLifecycleHookSession source agentLabel
        sessionRef).suppressedFullLifecycleHookReports = s.suppressedFullLifecycleHookReports := by
  unfold forgetStaleFullLifecycleHookSession
  split
  · exact ⟨rfl, rfl⟩
  · dsimp only
    split
    · exact ⟨rfl, rfl⟩
    · exact ⟨rfl, rfl⟩

lemma LiveHookSound.forget (h : s.LiveHookSound) (source agentLabel : String)
    (sessionRef : AgentSessionRef) :
    (s.forgetStaleFullLifecycleHookSession source agentLabel sessionRef).LiveHookSound := by
  obtain ⟨ha, hs⟩ := s.forget_hooks source agentLabel sessionRef
  refine ⟨⟨fun source' entry he => ?_, fun source' label' ref' hl => ?_⟩, ?_, ?_⟩
  · exact h.entries.suppressed_full source' entry (hs ▸ he)
  · exact h.entries.stale_full source' label' ref' (listedStale_of_forget hl)
  · intro authority hau hfull
    rw [hs]
    exact h.live_unsuppressed authority (ha ▸ hau) hfull
  · intro authority ref hau href hl
    exact h.live_not_stale authority ref (ha ▸ hau) href (listedStale_of_forget hl)

end Entries

end TerminalState

end Ork3.Terminal
