import Ork3.Proofs.PtyHandshake

/-!
# A PTY that is handed over

Between a successful `begin_handoff` and the next rollback the actor leaves the PTY alone as long as
no resize brings it something to answer, and after a failed one the gate is open again unless the
rollback was given up.
-/

namespace Ork3.Pty

open Ork3.Library PtyIoActor

/-- `begin_handoff` has returned `Ok` and no rollback has been called since, or it is about to return
`Ok`. -/
def PtyIoActor.HandedOver (s : PtyIoActor) : Prop :=
  s.quiet = true ∨ (s.controller = .beginning ∧ s.reply = some true)

/-- A resize that the actor takes up once the PTY is handed over has nothing to answer, and
`begin_handoff` waits for its rollback as long as the actor lives. -/
def PtyAction.Keeps (s : PtyIoActor) : PtyAction → Prop
  | .actor .go => s.phase = .applyControls ∨ (∃ call, s.phase = .beginControls call) →
    s.HandedOver → ∀ terminalResponses, s.resize = some terminalResponses →
      ∀ bytes ∈ terminalResponses, bytes = []
  | .rollbackTimedOut => s.controller = .rollingBack true → s.phase.exitCause ≠ none
  | _ => True

namespace PtyIoActor

/-- What the actor leaves to the handles. -/
structure SameHandles (s s' : PtyIoActor) : Prop where
  accepting : s'.accepting = s.accepting
  beginReturnedError : s'.beginReturnedError = s.beginReturnedError
  quiet : s'.quiet = s.quiet
  controller : s'.controller = s.controller
  accepted : s'.accepted = s.accepted

section
variable {s s' s'' : PtyIoActor}

lemma SameHandles.refl (s : PtyIoActor) : SameHandles s s := ⟨rfl, rfl, rfl, rfl, rfl⟩

lemma SameHandles.trans (h : SameHandles s s') (h' : SameHandles s' s'') : SameHandles s s'' :=
  ⟨h'.accepting.trans h.accepting, h'.beginReturnedError.trans h.beginReturnedError,
    h'.quiet.trans h.quiet, h'.controller.trans h.controller, h'.accepted.trans h.accepted⟩

lemma sameHandles_enqueueWrite (s : PtyIoActor) (message : Message) :
    SameHandles s (s.enqueueWrite message) := by
  unfold enqueueWrite
  split_ifs
  · exact .refl s
  · exact ⟨rfl, rfl, rfl, rfl, rfl⟩

lemma sameHandles_enqueueTerminalResponses (s : PtyIoActor)
    (terminalResponses : List (List UInt8)) :
    SameHandles s (s.enqueueTerminalResponses terminalResponses) := by
  unfold enqueueTerminalResponses
  split_ifs
  · exact .refl s
  · exact List.foldlRecOn terminalResponses _ (.refl s) fun t h bytes _ =>
      h.trans (sameHandles_enqueueWrite t _)

lemma sameHandles_applyPendingControls (s : PtyIoActor) :
    SameHandles s s.applyPendingControls := by
  have hcleared : SameHandles s { s with
      resize := none
      nudge := false } :=
    ⟨rfl, rfl, rfl, rfl, rfl⟩
  unfold applyPendingControls
  dsimp only
  split
  · exact hcleared
  · exact hcleared.trans (sameHandles_enqueueTerminalResponses _ _)

lemma sameHandles_sendReply (s : PtyIoActor) (call : Nat) (ok : Bool) :
    SameHandles s (s.sendReply call ok) := by
  obtain hsame | ⟨-, -, hsent⟩ := s.sendReply_cases call ok
  · rw [hsame]
    exact .refl s
  · rw [hsent]
    exact ⟨rfl, rfl, rfl, rfl, rfl⟩

lemma sameHandles_flushReturns (s : PtyIoActor) (ret : FlushReturn) :
    SameHandles s (s.flushReturns ret) := by
  cases ret <;> exact ⟨rfl, rfl, rfl, rfl, rfl⟩

lemma sameHandles_drainControlCommand (s : PtyIoActor) : SameHandles s s.drainControlCommand := by
  unfold PtyIoActor.drainControlCommand
  split
  case h_2 => exact ⟨rfl, rfl, rfl, rfl, rfl⟩
  case h_1 c rest hqueue =>
    have hpop : SameHandles s { s with controlQueue := rest } := ⟨rfl, rfl, rfl, rfl, rfl⟩
    cases c with
    | beginHandoff n => exact ⟨rfl, rfl, rfl, rfl, rfl⟩
    | duplicateForHandoff n => exact hpop.trans (sameHandles_sendReply _ n _)
    | foregroundProcessGroup => exact hpop
    | rollbackHandoff n =>
      unfold handleControlCommand
      dsimp only
      split_ifs
      · exact hpop.trans (sameHandles_sendReply _ n _)
      · have hrunning : SameHandles s { s with
            controlQueue := rest
            state := .running } :=
          ⟨rfl, rfl, rfl, rfl, rfl⟩
        exact hrunning.trans (sameHandles_sendReply _ n _)
    | releaseAfterCommit n =>
      have hreleased : SameHandles s { s with
          controlQueue := rest
          state := .released
          pendingWrites := []
          phase := .exiting .released } :=
        ⟨rfl, rfl, rfl, rfl, rfl⟩
      exact hreleased.trans (sameHandles_sendReply _ n _)
    | shutdown => exact ⟨rfl, rfl, rfl, rfl, rfl⟩

lemma sameHandles_beginTurn (s : PtyIoActor) (call : Nat) (deadline : Bool) :
    SameHandles s (s.beginTurn call deadline) := by
  have hended (state : ActorState) : SameHandles s { s with
      state := state
      phase := .drainControl } :=
    ⟨rfl, rfl, rfl, rfl, rfl⟩
  unfold PtyIoActor.beginTurn
  split_ifs
  · exact (hended .quiesced).trans (sameHandles_sendReply _ call true)
  · exact (hended s.state).trans (sameHandles_sendReply _ call false)
  · exact ⟨rfl, rfl, rfl, rfl, rfl⟩

lemma sameHandles_writeHead (s : PtyIoActor) (ret : FlushReturn) (message : Message)
    (rest : List Message) (outcome : WriteOutcome) :
    SameHandles s (s.writeHead ret message rest outcome) := by
  cases outcome with
  | wrote n =>
    unfold PtyIoActor.writeHead
    dsimp only
    split_ifs
    · exact sameHandles_flushReturns s ret
    · exact ⟨rfl, rfl, rfl, rfl, rfl⟩
    · exact ⟨rfl, rfl, rfl, rfl, rfl⟩
  | wouldBlock => exact sameHandles_flushReturns s ret
  | interrupted => exact sameHandles_flushReturns s ret
  | failed =>
    have hcleared : SameHandles s { s with
        pendingWrites := []
        currentWriteOffset := 0
        writeFailed := true } :=
      ⟨rfl, rfl, rfl, rfl, rfl⟩
    exact hcleared.trans (sameHandles_flushReturns _ ret)

lemma sameHandles_actorStep {event : ActorEvent} (hstep : s.actorStep event = some s') :
    SameHandles s s' := by
  have hphase (p : Phase) : SameHandles s { s with phase := p } := ⟨rfl, rfl, rfl, rfl, rfl⟩
  have hdata (rest : List (List UInt8)) : SameHandles s { s with dataQueue := rest } :=
    ⟨rfl, rfl, rfl, rfl, rfl⟩
  unfold PtyIoActor.actorStep at hstep
  split at hstep
  case h_1 =>
    cases hstep
    exact sameHandles_drainControlCommand s
  case h_2 =>
    cases hstep
    unfold PtyIoActor.drainDataCommand
    split
    · unfold handleDataCommand
      dsimp only
      split_ifs
      · exact (hdata _).trans (sameHandles_enqueueWrite _ _)
      · exact hdata _
    · exact hphase _
  case h_3 =>
    cases hstep
    exact (sameHandles_applyPendingControls s).trans ⟨rfl, rfl, rfl, rfl, rfl⟩
  case h_4 call _ =>
    cases hstep
    unfold PtyIoActor.drainPreQuiesceCommand
    split
    · dsimp only
      split_ifs
      · exact (hdata _).trans (sameHandles_enqueueWrite _ _)
      · exact hdata _
    · exact hphase _
  case h_5 call _ =>
    cases hstep
    have happlied := sameHandles_applyPendingControls s
    unfold PtyIoActor.beginApplyControls
    dsimp only
    split_ifs
    · refine happlied.trans ?_
      have hleft : SameHandles s.applyPendingControls
          { s.applyPendingControls with phase := .drainControl } :=
        ⟨rfl, rfl, rfl, rfl, rfl⟩
      exact hleft.trans (sameHandles_sendReply _ call false)
    · exact happlied.trans ⟨rfl, rfl, rfl, rfl, rfl⟩
  case h_6 call _ =>
    cases hstep
    exact sameHandles_beginTurn s call false
  case h_7 call _ =>
    cases hstep
    exact sameHandles_beginTurn s call true
  case h_8 ret _ =>
    split_ifs at hstep
    cases hstep
    exact sameHandles_flushReturns s ret
  case h_9 ret outcome _ =>
    split at hstep
    · cases hstep
    · cases hstep
      exact sameHandles_writeHead s ret _ _ outcome
  case h_10 wake writeReady readReady _ =>
    cases hstep
    unfold PtyIoActor.pollReady
    split_ifs <;> exact hphase _
  case h_11 =>
    cases hstep
    exact hphase _
  case h_12 outcome _ =>
    cases hstep
    cases outcome with
    | data bytes terminalResponses =>
      exact (hphase .drainControl).trans (sameHandles_enqueueTerminalResponses _ _)
    | _ => exact hphase _
  case h_13 =>
    cases hstep
    exact hphase _
  case h_14 =>
    cases hstep
    exact hphase _
  case h_15 => cases hstep

/-! ### Quiescence -/

/-- The actor's thread does not come back to its loop. -/
lemma live_of_actorStep {event : ActorEvent} (hstep : s.actorStep event = some s')
    (hlive : s'.Live) : s.Live := by
  unfold Live
  cases hphase : s.phase with
  | exiting cause =>
    unfold PtyIoActor.actorStep at hstep
    rw [hphase] at hstep
    cases event with
    | go =>
      cases hstep
      cases hlive
    | _ => cases hstep
  | dataDropped cause =>
    unfold PtyIoActor.actorStep at hstep
    rw [hphase] at hstep
    cases event with
    | go =>
      cases hstep
      cases hlive
    | _ => cases hstep
  | ended cause =>
    unfold PtyIoActor.actorStep at hstep
    rw [hphase] at hstep
    cases event <;> cases hstep
  | _ => rfl

lemma Handshake.quiesced (h : s.Handshake) (hlive : s.Live) (hover : s.HandedOver) :
    s.state = .quiesced := by
  rcases hover with hquiet | ⟨hbeginning, hreply⟩
  · exact (h.agreed.quieted hlive hquiet).1
  · exact h.agreed.begun hlive hbeginning hreply

lemma HandedOver.of_same (hover : s'.HandedOver) (hs : SameHandles s s')
    (hreply : s.controller = .beginning → s'.reply = some true → s.reply = some true) :
    s.HandedOver := by
  rcases hover with hquiet | ⟨hbeginning, hreply'⟩
  · exact .inl (hs.quiet ▸ hquiet)
  · rw [hs.controller] at hbeginning
    exact .inr ⟨hbeginning, hreply hbeginning hreply'⟩

/-- A reply to another command than a `begin_handoff` is none to a `begin_handoff`. -/
lemma handedOver_sendReply {t : PtyIoActor} {n : Nat} {ok : Bool} (hs : SameHandles s t)
    (hreply : t.reply = s.reply) (hother : n = t.call → s.controller ≠ .beginning)
    (hover : (t.sendReply n ok).HandedOver) :
    s.HandedOver ∧ (t.sendReply n ok).pendingWrites = t.pendingWrites := by
  obtain hsame | ⟨hlatest, -, hsent⟩ := t.sendReply_cases n ok
  · rw [hsame] at hover ⊢
    exact ⟨hover.of_same hs fun _ hok => hreply ▸ hok, rfl⟩
  · rw [hsent] at hover ⊢
    refine ⟨?_, rfl⟩
    rcases hover with hquiet | ⟨hbeginning, -⟩
    · exact .inl (hs.quiet ▸ hquiet)
    · exact absurd (hs.controller ▸ hbeginning) (hother hlatest)

lemma Handshake.handedOver_drainControlCommand (h : s.Handshake) (hphase : s.phase = .drainControl)
    (hlive : s.drainControlCommand.Live) (hover : s.drainControlCommand.HandedOver) :
    s.HandedOver ∧ s.drainControlCommand.pendingWrites = s.pendingWrites := by
  have hlive' : s.Live := by rw [Live, hphase]; rfl
  have hsame := sameHandles_drainControlCommand s
  generalize hs' : s.drainControlCommand = s' at hlive hover hsame ⊢
  unfold PtyIoActor.drainControlCommand at hs'
  split at hs'
  case h_2 =>
    subst hs'
    exact ⟨hover.of_same hsame fun _ hok => hok, rfl⟩
  case h_1 c rest hqueue =>
    have hmem : c ∈ s.controlQueue := hqueue ▸ List.mem_cons_self
    have hpop : SameHandles s { s with controlQueue := rest } := ⟨rfl, rfl, rfl, rfl, rfl⟩
    cases c with
    | beginHandoff n =>
      subst hs'
      exact ⟨hover.of_same hsame fun _ hok => hok, rfl⟩
    | duplicateForHandoff n =>
      subst hs'
      refine handedOver_sendReply hpop rfl (fun hlatest hbeginning => ?_) hover
      exact absurd (h.numbered.begins hbeginning _ hmem (congrArg some hlatest)) (by rintro ⟨⟩)
    | foregroundProcessGroup =>
      subst hs'
      exact ⟨hover.of_same hsame fun _ hok => hok, rfl⟩
    | rollbackHandoff n =>
      unfold handleControlCommand at hs'
      dsimp only at hs'
      rw [if_neg (h.agreed.unreleased hlive')] at hs'
      subst hs'
      refine handedOver_sendReply (s := s) ⟨rfl, rfl, rfl, rfl, rfl⟩ rfl
        (fun hlatest hbeginning => ?_) hover
      exact absurd (h.numbered.begins hbeginning _ hmem (congrArg some hlatest)) (by rintro ⟨⟩)
    | releaseAfterCommit n =>
      subst hs'
      unfold handleControlCommand at hlive
      rw [Live, phase_sendReply] at hlive
      cases hlive
    | shutdown =>
      subst hs'
      cases hlive

lemma enqueueTerminalResponses_empty {terminalResponses : List (List UInt8)}
    (hempty : ∀ bytes ∈ terminalResponses, bytes = []) :
    s.enqueueTerminalResponses terminalResponses = s := by
  unfold enqueueTerminalResponses
  split_ifs
  · rfl
  · refine List.foldlRecOn (motive := (· = s)) terminalResponses _ rfl fun t ht bytes hbytes => ?_
    rw [ht, hempty bytes hbytes]
    exact if_pos rfl

lemma pending_applyPendingControls (hempty : ∀ terminalResponses, s.resize = some terminalResponses →
    ∀ bytes ∈ terminalResponses, bytes = []) :
    s.applyPendingControls.pendingWrites = s.pendingWrites := by
  unfold applyPendingControls
  dsimp only
  split
  · rfl
  · next terminalResponses hresize =>
    rw [enqueueTerminalResponses_empty (hempty terminalResponses hresize)]

lemma reply_flushReturns (s : PtyIoActor) (ret : FlushReturn) :
    (s.flushReturns ret).reply = s.reply := by
  cases ret <;> rfl

lemma reply_writeHead (s : PtyIoActor) (ret : FlushReturn) (message : Message)
    (rest : List Message) (outcome : WriteOutcome) :
    (s.writeHead ret message rest outcome).reply = s.reply := by
  cases outcome with
  | wrote n =>
    unfold PtyIoActor.writeHead
    dsimp only
    split_ifs
    · exact reply_flushReturns s ret
    · rfl
    · rfl
  | _ => exact reply_flushReturns _ ret

/-- What is left of a data command changes nothing but the queue of writes. -/
lemma reply_handleDataCommand (s : PtyIoActor) (bytes : List UInt8) :
    (s.handleDataCommand bytes).reply = s.reply := by
  unfold handleDataCommand
  split_ifs
  · exact (sameHandshake_enqueueWrite _ _).reply
  · rfl

lemma pending_drainDataCommand (hover : s.drainDataCommand.HandedOver)
    (hsame : SameHandles s s.drainDataCommand) (hempty : s.HandedOver → s.dataQueue = [])
    (hpending : s.HandedOver → s.pendingWrites = []) : s.drainDataCommand.pendingWrites = [] := by
  generalize hs' : s.drainDataCommand = s' at hover hsame ⊢
  unfold PtyIoActor.drainDataCommand at hs'
  split at hs'
  case h_1 bytes rest hqueue =>
    subst hs'
    refine absurd (hempty (hover.of_same hsame fun _ hok => ?_)) ?_
    · rwa [reply_handleDataCommand] at hok
    · rw [hqueue]
      exact List.cons_ne_nil bytes rest
  case h_2 =>
    subst hs'
    exact hpending (hover.of_same hsame fun _ hok => hok)

lemma pending_drainPreQuiesceCommand {call : Nat}
    (hover : (s.drainPreQuiesceCommand call).HandedOver)
    (hsame : SameHandles s (s.drainPreQuiesceCommand call))
    (hempty : s.HandedOver → s.dataQueue = [])
    (hpending : s.HandedOver → s.pendingWrites = []) :
    (s.drainPreQuiesceCommand call).pendingWrites = [] := by
  generalize hs' : s.drainPreQuiesceCommand call = s' at hover hsame ⊢
  unfold PtyIoActor.drainPreQuiesceCommand at hs'
  split at hs'
  case h_1 bytes rest hqueue =>
    refine absurd (hempty (hover.of_same hsame fun _ hok => ?_)) ?_
    · dsimp only at hs'
      split_ifs at hs'
      · rwa [← hs', (sameHandshake_enqueueWrite _ _).reply] at hok
      · rwa [← hs'] at hok
    · rw [hqueue]
      exact List.cons_ne_nil bytes rest
  case h_2 =>
    subst hs'
    exact hpending (hover.of_same hsame fun _ hok => hok)

lemma pending_beginTurn {call : Nat} {deadline : Bool}
    (hover : (s.beginTurn call deadline).HandedOver)
    (hsame : SameHandles s (s.beginTurn call deadline))
    (hpending : s.HandedOver → s.pendingWrites = []) :
    (s.beginTurn call deadline).pendingWrites = [] := by
  unfold PtyIoActor.beginTurn at hover hsame ⊢
  split_ifs at hover hsame ⊢ with hnone hlate
  · obtain hsent | ⟨-, -, hsent⟩ := sendReply_cases { s with
      state := .quiesced
      phase := .drainControl } call true
    · rw [hsent]
      exact hnone
    · rw [hsent]
      exact hnone
  · refine absurd (hpending (hover.of_same hsame fun _ hok => ?_)) hnone
    obtain hsent | ⟨-, -, hsent⟩ := sendReply_cases { s with phase := .drainControl } call false
    · rwa [hsent] at hok
    · rw [hsent] at hok
      cases hok
  · exact absurd (hpending (hover.of_same hsame fun _ hok => hok)) hnone

/-- Nothing is put in the queue of writes of a PTY that has been handed over. -/
lemma Handshake.pending_actorStep (h : s.Handshake) {event : ActorEvent}
    (hstep : s.actorStep event = some s') (hkeeps : (PtyAction.actor event).Keeps s)
    (hpending : s.Live → s.HandedOver → s.pendingWrites = []) (hlive : s'.Live)
    (hover : s'.HandedOver) : s'.pendingWrites = [] := by
  have hlive' := live_of_actorStep hstep hlive
  have hsame := sameHandles_actorStep hstep
  have hempty : s.HandedOver → s.dataQueue = [] := fun hs =>
    h.agreed.empty hlive' (.inr (h.quiesced hlive' hs))
  unfold PtyIoActor.actorStep at hstep
  split at hstep
  case h_1 hphase =>
    cases hstep
    obtain ⟨hs, hwrites⟩ := h.handedOver_drainControlCommand hphase hlive hover
    exact hwrites.trans (hpending hlive' hs)
  case h_2 hphase =>
    cases hstep
    exact pending_drainDataCommand hover hsame hempty (hpending hlive')
  case h_3 hphase =>
    cases hstep
    have hs : s.HandedOver := hover.of_same hsame fun _ hok => by
      rwa [← (sameHandshake_applyPendingControls s).reply]
    exact (pending_applyPendingControls (hkeeps (.inl hphase) hs)).trans (hpending hlive' hs)
  case h_4 call hphase =>
    cases hstep
    exact pending_drainPreQuiesceCommand hover hsame hempty (hpending hlive')
  case h_5 call hphase =>
    cases hstep
    have happlied := sameHandshake_applyPendingControls s
    have hunreleased : s.applyPendingControls.state ≠ .released := by
      rw [happlied.state]
      exact h.agreed.unreleased hlive'
    unfold PtyIoActor.beginApplyControls at hover hsame ⊢
    dsimp only at hover hsame ⊢
    rw [if_neg hunreleased] at hover hsame ⊢
    have hs : s.HandedOver := hover.of_same hsame fun _ hok => by rwa [← happlied.reply]
    exact (pending_applyPendingControls (hkeeps (.inr ⟨call, hphase⟩) hs)).trans
      (hpending hlive' hs)
  case h_6 call _ =>
    cases hstep
    exact pending_beginTurn hover hsame (hpending hlive')
  case h_7 call _ =>
    cases hstep
    exact pending_beginTurn hover hsame (hpending hlive')
  case h_8 ret _ =>
    split_ifs at hstep with hnone
    cases hstep
    cases ret <;> exact hnone
  case h_9 ret outcome _ =>
    split at hstep
    case h_1 => cases hstep
    case h_2 message rest hwrites =>
      cases hstep
      refine absurd (hpending hlive' (hover.of_same hsame fun _ hok => ?_)) ?_
      · rwa [reply_writeHead] at hok
      · rw [hwrites]
        exact List.cons_ne_nil message rest
  case h_10 wake writeReady readReady _ =>
    cases hstep
    have hs : s.HandedOver := hover.of_same hsame fun _ hok => by
      unfold PtyIoActor.pollReady at hok
      split_ifs at hok <;> exact hok
    unfold PtyIoActor.pollReady
    split_ifs <;> exact hpending hlive' hs
  case h_11 =>
    cases hstep
    cases hlive
  case h_12 outcome hphase =>
    have hrunning := h.agreed.reading hphase
    cases hstep
    refine absurd (h.quiesced hlive' (hover.of_same hsame fun _ hok => ?_)) ?_
    · cases outcome with
      | data bytes terminalResponses =>
        unfold PtyIoActor.readOnce at hok
        rwa [(sameHandshake_enqueueTerminalResponses _ _).reply] at hok
      | _ => exact hok
    · rw [hrunning]
      exact fun hquiesced => nomatch hquiesced
  case h_13 =>
    cases hstep
    cases hlive
  case h_14 =>
    cases hstep
    cases hlive
  case h_15 => cases hstep

/-- What holds in every state of a run whose steps all meet the condition. -/
structure Quiescence (s : PtyIoActor) : Prop where
  handshake : s.Handshake
  pending : s.Live → s.HandedOver → s.pendingWrites = []
  reopened : s.beginReturnedError = true → s.Live → s.accepting = true

/-- An action of the handles that hands nothing over and returns no error. -/
lemma Quiescence.of_handles (h : s.Quiescence) (hs' : s'.Handshake) (hlive : s'.Live → s.Live)
    (hover : s'.HandedOver → s.HandedOver) (hwrites : s'.pendingWrites = s.pendingWrites)
    (hreopened : s'.beginReturnedError = true → s'.Live → s'.accepting = true) :
    s'.Quiescence where
  handshake := hs'
  pending hl ho := hwrites.trans (h.pending (hlive hl) (hover ho))
  reopened := hreopened

lemma Quiescence.setController (h : s.Quiescence) {accepting beginReturnedError : Bool}
    {controller : Controller}
    (hs' : Handshake { s with
      accepting := accepting
      beginReturnedError := beginReturnedError
      controller := controller })
    (hbegins : controller ≠ .beginning)
    (hreopened : beginReturnedError = true → s.Live → accepting = true) :
    Quiescence { s with
      accepting := accepting
      beginReturnedError := beginReturnedError
      controller := controller } := by
  refine h.of_handles hs' id (fun hover => ?_) rfl hreopened
  rcases hover with hquiet | ⟨hbeginning, -⟩
  · exact .inl hquiet
  · exact absurd hbeginning hbegins

lemma Quiescence.callActor (h : s.Quiescence) {command : Nat → PtyIoControlCommand}
    {controller : Controller} (hs' : (s.callActor command controller).Handshake)
    (hbegins : controller ≠ .beginning)
    (hreopened : s.beginReturnedError = true → s.Live → s.accepting = true) :
    (s.callActor command controller).Quiescence := by
  refine h.of_handles hs' id (fun hover => ?_) rfl hreopened
  rcases hover with hquiet | ⟨hbeginning, -⟩
  · exact .inl hquiet
  · exact absurd hbeginning hbegins

lemma Quiescence.beginHandoff (h : s.Quiescence) (hs' : s.beginHandoff.Handshake) :
    s.beginHandoff.Quiescence := by
  unfold PtyIoActor.beginHandoff at hs' ⊢
  split_ifs at hs' ⊢ with hclosed
  · exact h.of_handles hs' id id rfl fun _ _ => rfl
  · refine h.of_handles hs' id (fun hover => ?_) rfl fun herror => nomatch herror
    rcases hover with hquiet | ⟨-, hreply⟩
    · exact .inl hquiet
    · cases hreply

lemma Quiescence.beginReplied (h : s.Quiescence) {ok : Bool} (hs' : (s.beginReplied ok).Handshake)
    (hreply : ok = true → s.controller = .beginning ∧ s.reply = some true) :
    (s.beginReplied ok).Quiescence := by
  unfold PtyIoActor.beginReplied at hs' ⊢
  cases ok with
  | false => exact h.setController hs' (fun hbeginning => nomatch hbeginning) h.reopened
  | true => exact h.of_handles hs' id (fun _ => .inr (hreply rfl)) rfl h.reopened

lemma Quiescence.rollbackReturned (h : s.Quiescence) {inBegin : Bool}
    (hs' : (s.rollbackReturned inBegin).Handshake)
    (hopen : inBegin = true → s.Live → s.accepting = true) :
    (s.rollbackReturned inBegin).Quiescence := by
  refine h.of_handles hs' id (fun hover => ?_) rfl fun herror => ?_
  · rcases hover with hquiet | ⟨hbeginning, -⟩
    · exact .inl hquiet
    · cases hbeginning
  · rcases (Bool.or_eq_true _ _).mp herror with hbefore | hnow
    · exact h.reopened hbefore
    · exact hopen hnow

lemma Quiescence.rollbackHandoff (h : s.Quiescence) {inBegin : Bool}
    (hs' : (s.rollbackHandoff inBegin).Handshake) : (s.rollbackHandoff inBegin).Quiescence := by
  unfold PtyIoActor.rollbackHandoff at hs' ⊢
  dsimp only at hs' ⊢
  split_ifs at hs' ⊢ with hclosed
  · refine h.of_handles hs' id (fun hover => ?_) rfl fun _ hlive => ?_
    · rcases hover with hquiet | ⟨hbeginning, -⟩
      · cases hquiet
      · cases hbeginning
    · exact absurd hlive (controlClosed_spec hclosed)
  · refine h.of_handles hs' id (fun hover => ?_) rfl h.reopened
    rcases hover with hquiet | ⟨hbeginning, -⟩
    · cases hquiet
    · cases hbeginning

lemma Quiescence.rollbackReplied (h : s.Quiescence) {inBegin ok : Bool}
    (hs' : (s.rollbackReplied inBegin ok).Handshake)
    (hok : ok = false → inBegin = true → ¬s.Live) :
    (s.rollbackReplied inBegin ok).Quiescence := by
  unfold PtyIoActor.rollbackReplied at hs' ⊢
  cases ok with
  | false => exact h.rollbackReturned hs' fun hbegin hlive => absurd hlive (hok rfl hbegin)
  | true =>
    refine h.of_handles hs' id (fun hover => ?_) rfl fun _ _ => rfl
    rcases hover with hquiet | ⟨hbeginning, -⟩
    · exact .inl hquiet
    · cases hbeginning

lemma start_quiescence (initiallyQuiesced : Bool) : (start initiallyQuiesced).Quiescence where
  handshake := start_handshake initiallyQuiesced
  pending _ _ := rfl
  reopened herror := nomatch herror

end

end PtyIoActor

lemma PtyAction.Step.quiescence {s s' : PtyIoActor} {a : PtyAction} (hs : a.Step s s')
    (hkeeps : a.Keeps s) (h : s.Quiescence) : s'.Quiescence := by
  have hs' := hs.handshake h.handshake
  cases a with
  | reserve =>
    obtain ⟨-, -, -, rfl⟩ := hs
    exact h.of_handles hs' id id rfl h.reopened
  | sendReserved bytes =>
    obtain ⟨-, rfl⟩ := hs
    unfold PtyIoActor.sendReserved at hs' ⊢
    dsimp only at hs' ⊢
    split_ifs at hs' ⊢
    · exact h.of_handles hs' id id rfl h.reopened
    · exact h.of_handles hs' id id rfl h.reopened
  | tryWriteUserInput bytes =>
    obtain ⟨-, rfl⟩ := hs
    unfold PtyIoActor.tryWriteUserInput at hs' ⊢
    split_ifs at hs' ⊢
    · exact h.of_handles hs' id id rfl h.reopened
    · exact h
  | resize terminalResponses =>
    obtain ⟨-, rfl⟩ := hs
    exact h.of_handles hs' id id rfl h.reopened
  | nudgeChildRedrawAfterHandoff =>
    obtain ⟨-, rfl⟩ := hs
    exact h.of_handles hs' id id rfl h.reopened
  | foregroundProcessGroupId =>
    obtain ⟨-, -, rfl⟩ := hs
    exact h.of_handles hs' id id rfl h.reopened
  | shutdownClose =>
    obtain ⟨-, rfl⟩ := hs
    exact h.of_handles hs' id id rfl fun herror => nomatch herror
  | shutdownSend =>
    obtain ⟨-, rfl⟩ := hs
    exact h.of_handles hs' id id rfl h.reopened
  | dropHandles =>
    obtain ⟨-, -, -, -, rfl⟩ := hs
    exact h.of_handles hs' id id rfl h.reopened
  | beginHandoff =>
    obtain ⟨-, -, rfl⟩ := hs
    exact h.beginHandoff hs'
  | beginReplied =>
    obtain ⟨ok, hcontroller, hreply, rfl⟩ := hs
    exact h.beginReplied hs' fun hok => ⟨hcontroller, hok ▸ hreply⟩
  | beginTimedOut =>
    obtain ⟨-, -, rfl⟩ := hs
    exact h.beginReplied hs' fun hok => nomatch hok
  | rollbackHandoff =>
    obtain ⟨-, ⟨-, rfl⟩ | ⟨-, rfl⟩⟩ := hs
    · exact h.rollbackHandoff hs'
    · exact h.rollbackHandoff hs'
  | rollbackReplied =>
    obtain ⟨inBegin, ok, hcontroller, hreply, rfl⟩ := hs
    refine h.rollbackReplied hs' fun hrefused _ hlive => ?_
    exact h.handshake.agreed.refused hlive inBegin hcontroller (hrefused ▸ hreply)
  | rollbackTimedOut =>
    obtain ⟨inBegin, hcontroller, -, rfl⟩ := hs
    exact h.rollbackReplied hs' fun _ hbegin hlive => hkeeps (hbegin ▸ hcontroller) hlive
  | duplicateForHandoff =>
    obtain ⟨-, -, rfl⟩ := hs
    split_ifs at hs' ⊢
    · exact h
    · exact h.callActor hs' (fun hbeginning => nomatch hbeginning) h.reopened
  | duplicateReturned =>
    obtain ⟨-, rfl⟩ := hs
    exact h.setController hs' (fun hbeginning => nomatch hbeginning) h.reopened
  | releaseClose =>
    obtain ⟨-, -, rfl⟩ := hs
    exact h.setController hs' (fun hbeginning => nomatch hbeginning) fun herror => nomatch herror
  | releaseSend =>
    obtain ⟨-, rfl⟩ := hs
    split_ifs at hs' ⊢
    · exact h.setController hs' (fun hbeginning => nomatch hbeginning) h.reopened
    · exact h.callActor hs' (fun hbeginning => nomatch hbeginning) h.reopened
  | releaseReturned =>
    obtain ⟨-, rfl⟩ := hs
    exact h.setController hs' (fun hbeginning => nomatch hbeginning) h.reopened
  | actor event =>
    have hsame := sameHandles_actorStep hs
    refine ⟨hs', h.handshake.pending_actorStep hs hkeeps h.pending, fun herror hlive => ?_⟩
    rw [hsame.beginReturnedError] at herror
    rw [hsame.accepting]
    exact h.reopened herror (live_of_actorStep hs hlive)

namespace PtyIoActor

section
variable {s : PtyIoActor}

lemma Quiescence.no_write (h : s.Quiescence) (hquiet : s.quiet = true) (outcome : WriteOutcome) :
    s.actorStep (.write outcome) = none := by
  cases hphase : s.phase with
  | flush ret =>
    have hlive : s.Live := by rw [Live, hphase]; rfl
    unfold actorStep
    rw [hphase, h.pending hlive (.inl hquiet)]
  | _ =>
    unfold actorStep
    rw [hphase]

lemma Quiescence.no_read (h : s.Quiescence) (hquiet : s.quiet = true) (outcome : ReadOutcome) :
    s.actorStep (.read outcome) = none := by
  cases hphase : s.phase with
  | read =>
    have hlive : s.Live := by rw [Live, hphase]; rfl
    have hrunning := h.handshake.agreed.reading hphase
    rw [h.handshake.quiesced hlive (.inl hquiet)] at hrunning
    cases hrunning
  | _ =>
    unfold actorStep
    rw [hphase]

end

/-- The PTY is left alone after a `begin_handoff` that returned `Ok`, and the gate is open after one
that returned an error. -/
theorem quiet_until_rollback {initiallyQuiesced : Bool} {actions : List PtyAction} {s : PtyIoActor}
    (hrun : Run (fun s a s' => a.Keeps s ∧ a.Step s s') (start initiallyQuiesced) actions s) :
    (s.quiet = true → (∀ outcome, s.actorStep (.write outcome) = none) ∧
      ∀ outcome, s.actorStep (.read outcome) = none) ∧
    (s.beginReturnedError = true → s.Live → s.controlQueue = [] → s.state = .running →
      s.accepting = true) := by
  have hstep (s : PtyIoActor) (a : PtyAction) (s' : PtyIoActor) (h : s.Quiescence)
      (hs : a.Keeps s ∧ a.Step s s') : s'.Quiescence :=
    hs.2.quiescence hs.1 h
  have h := hrun.invariant hstep (start_quiescence initiallyQuiesced)
  exact ⟨fun hquiet => ⟨h.no_write hquiet, h.no_read hquiet⟩,
    fun herror hlive _ _ => h.reopened herror hlive⟩

/-- A `begin_handoff` that returns `Ok`, as far as its return. -/
def beginSucceeds : List PtyAction :=
  [.beginHandoff, .actor .go, .actor .go, .actor .go, .actor .go, .beginReplied]

/-- A `begin_handoff` and its rollback time out before the actor looks at its commands. -/
def beginGivenUp : List PtyAction :=
  [.beginHandoff, .beginTimedOut, .rollbackHandoff, .rollbackTimedOut, .actor .go, .actor .go,
    .actor .go, .actor .go, .actor .go]

lemma keeps_go {s : PtyIoActor} (hresize : s.resize.getD [] = []) :
    PtyAction.Keeps s (.actor .go) := by
  intro _ _ terminalResponses hsome bytes hbytes
  rw [hsome, Option.getD_some] at hresize
  rw [hresize] at hbytes
  cases hbytes

/-- With a size that has nothing to answer the actor goes round its loop and only polls. -/
theorem quiet_until_rollback_resized :
    ∃ s, Run (fun s a s' => PtyAction.Keeps s a ∧ a.Step s s') (start false)
      (beginSucceeds ++ [.resize [], .actor .go, .actor .go, .actor .go, .actor .go]) s ∧
      s.phase = .poll ∧ s.quiet = true ∧ ∀ outcome, s.actorStep (.write outcome) = none := by
  have hrun : Run (fun s a s' => PtyAction.Keeps s a ∧ a.Step s s') (start false)
      (beginSucceeds ++ [.resize [], .actor .go, .actor .go, .actor .go, .actor .go]) _ :=
    .cons ⟨trivial, rfl, rfl, rfl⟩ <| .cons ⟨keeps_go rfl, rfl⟩ <| .cons ⟨keeps_go rfl, rfl⟩ <|
    .cons ⟨keeps_go rfl, rfl⟩ <| .cons ⟨keeps_go rfl, rfl⟩ <| .cons ⟨trivial, true, rfl, rfl, rfl⟩ <|
    .cons ⟨trivial, rfl, rfl⟩ <| .cons ⟨keeps_go rfl, rfl⟩ <| .cons ⟨keeps_go rfl, rfl⟩ <|
    .cons ⟨keeps_go rfl, rfl⟩ <| .cons ⟨keeps_go rfl, rfl⟩ (.nil _)
  exact ⟨_, hrun, rfl, rfl, ((quiet_until_rollback hrun).1 rfl).1⟩

/-- A resize is answered after `begin_handoff` has returned `Ok`, and the gate of a running actor
stays shut after `begin_handoff` has returned an error. -/
theorem resize_answered_while_quiet :
    (∃ actions s, Run (fun s a s' => PtyAction.Step s a s') (start false) actions s ∧
      s.quiet = true ∧ (s.actorStep (.write (.wrote 1))).map (·.written) = some [27]) ∧
    ∃ actions s, Run (fun s a s' => PtyAction.Step s a s') (start false) actions s ∧
      s.beginReturnedError = true ∧ s.Live ∧ s.controlQueue = [] ∧ s.state = .running ∧
      s.accepting = false := by
  have hresized : Run (fun s a s' => PtyAction.Step s a s') (start false)
      (beginSucceeds ++ [.resize [[27]], .actor .go, .actor .go, .actor .go]) _ :=
    .cons ⟨rfl, rfl, rfl⟩ <| .cons rfl <| .cons rfl <| .cons rfl <| .cons rfl <|
    .cons ⟨true, rfl, rfl, rfl⟩ <| .cons ⟨rfl, rfl⟩ <| .cons rfl <| .cons rfl <| .cons rfl (.nil _)
  have hgivenUp : Run (fun s a s' => PtyAction.Step s a s') (start false) beginGivenUp _ :=
    .cons ⟨rfl, rfl, rfl⟩ <| .cons ⟨rfl, rfl, rfl⟩ <| .cons ⟨rfl, .inr ⟨rfl, rfl⟩⟩ <|
    .cons ⟨true, rfl, rfl, rfl⟩ <| .cons rfl <| .cons rfl <| .cons rfl <| .cons rfl <|
    .cons rfl (.nil _)
  exact ⟨⟨_, _, hresized, rfl, rfl⟩, ⟨_, _, hgivenUp, rfl, rfl, rfl, rfl, rfl⟩⟩

end PtyIoActor

end Ork3.Pty
