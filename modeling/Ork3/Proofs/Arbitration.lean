import Ork3.Proofs.TerminalFrame

/-!
# The cached state of a terminal

`state` is a cache of the arbitration. An operation that changes the evidence ends with
`recomputeEffectiveState`, and what it does before leaves `state` alone.
-/

namespace Ork3.Terminal

open Ork3.Library

namespace TerminalState

/-- The cached state is the arbitration of the evidence. -/
def Arbitrated (s : TerminalState) : Prop :=
  s.state = s.arbitration

lemma state_noteAgentMetadata (s : TerminalState) (report : AgentMetadataReport) (now : Instant) :
    (s.noteAgentMetadata report now).state = s.state := by
  unfold noteAgentMetadata
  dsimp only
  split_ifs <;> rfl

/-! ### Rejected reports -/

section Rejected
variable {s : TerminalState}

lemma Arbitrated.acceptMetadataReport (h : s.Arbitrated) (source : String) (seq : Option UInt64)
    (includesTokens : Bool) : (s.acceptMetadataReport source seq includesTokens).1.Arbitrated := by
  unfold TerminalState.acceptMetadataReport
  cases seq with
  | none => exact h
  | some seq =>
    dsimp only
    split_ifs
    · exact h
    · exact h
    · exact h
    · exact h

end Rejected

/-! ### The recomputation -/

/-- The state is written exactly when it differs from the one read before. -/
lemma arbitrated_recompute {s : TerminalState} {previous : Previous} (h : previous.state = s.state)
    (now : Instant) : (s.recomputeEffectiveState previous now).1.Arbitrated := by
  unfold recomputeEffectiveState
  dsimp only
  split
  · rename_i heq
    exact h.symm.trans heq.2.1
  · rfl

/-! ### The operations -/

section Operations
variable {s : TerminalState}

lemma Arbitrated.clearExpiryPending (h : s.Arbitrated) :
    s.clearExpiryPendingForHiddenMetadata.Arbitrated := h

/-- Neither sequence numbers nor a persisted session are evidence. -/
lemma recomputed_arbitrated : Recomputed Arbitrated where
  sequences _ _ h := h
  session _ _ h := h
  recompute _ _ _ now _ hkept hstate :=
    arbitrated_recompute (hstate.trans (congrArg Kept.state hkept).symm) now

lemma Arbitrated.setAgentMetadata (h : s.Arbitrated) (report : AgentMetadataReport)
    (now : Instant) : (s.setAgentMetadata report now).1.Arbitrated := by
  have haccept := h.acceptMetadataReport report.source report.seq false
  unfold TerminalState.setAgentMetadata
  split
  · have hcomp : ∀ t : TerminalState, ((t.noteAgentMetadata report now).recomputeEffectiveState
        (t.previousAt now) now).1.Arbitrated :=
      fun t => arbitrated_recompute (t.state_noteAgentMetadata report now).symm now
    dsimp only
    split_ifs
    · exact (hcomp _).clearExpiryPending
    · exact (hcomp _).clearExpiryPending
    · exact hcomp _
    · exact hcomp _
  · rename_i heq
    rw [heq] at haccept
    exact haccept

lemma Arbitrated.expireAgentMetadataAt (h : s.Arbitrated) (scheduledDeadline now : Instant) :
    (s.expireAgentMetadataAt scheduledDeadline now).1.Arbitrated := by
  unfold TerminalState.expireAgentMetadataAt
  dsimp only
  split
  · exact h
  · exact arbitrated_recompute rfl now

/-- Every operation keeps the cache in step with the evidence. -/
theorem Arbitrated.apply (h : s.Arbitrated) (op : TerminalOp) : (op.apply s).Arbitrated := by
  cases op with
  | setDetectedStateWithScreenSignalsAt => exact recomputed_arbitrated.setDetectedState h ..
  | setHookAuthorityAt => exact recomputed_arbitrated.setHookAuthorityAt h ..
  | setAgentSessionRefForSessionStart =>
    exact recomputed_arbitrated.setAgentSessionRefForSessionStart h ..
  | clearHookAuthorityWithMutation =>
    exact recomputed_arbitrated.clearHookAuthorityWithMutation h ..
  | releaseAgentWithMutation => exact recomputed_arbitrated.releaseAgentWithMutation h ..
  | setAgentMetadata report now => exact h.setAgentMetadata report now
  | expireAgentMetadataAt scheduledDeadline now =>
    exact h.expireAgentMetadataAt scheduledDeadline now
  | setPersistedAgentSession session => exact recomputed_arbitrated.session s session h
  | clearAgentRuntimeIdentityAfterRespawn => rfl

end Operations

lemma arbitrated_foldl (ops : List TerminalOp) {s : TerminalState} (h : s.Arbitrated) :
    (ops.foldl TerminalOp.apply s).Arbitrated := by
  induction ops generalizing s with
  | nil => exact h
  | cons op ops ih => exact ih (h.apply op)

/-- After any operations on a new terminal, with any arguments and clock readings, the cached state
is the arbitration of the stored evidence. -/
theorem state_eq_arbitration (ops : List TerminalOp) :
    (TerminalState.after ops).state = (TerminalState.after ops).arbitration :=
  arbitrated_foldl ops rfl

end TerminalState

end Ork3.Terminal
