import Ork3.Library.Outlet
import Ork3.Proofs.PtyQuiescence

/-!
# What reaches the PTY

Messages are written whole and in the order in which they were queued, until a write fails or the
PTY is released, and what the gate has let in is queued in the order in which it came.
-/

namespace Ork3.Pty

open Ork3.Library

def Message.input? : Message → Option (List UInt8)
  | userInput bytes => some bytes
  | terminalResponse _ => none

/-- The user's inputs among the messages. -/
def inputs (messages : List Message) : List (List UInt8) :=
  messages.filterMap Message.input?

lemma inputs_append (messages messages' : List Message) :
    inputs (messages ++ messages') = inputs messages ++ inputs messages' :=
  List.filterMap_append

namespace PtyIoActor

/-- The queue of writes against what the PTY has received. -/
structure Delivers (s : PtyIoActor) (settled : List (Message × Nat)) : Prop where
  outlet : Outlet Message.bytes settled s.queued s.pendingWrites s.currentWriteOffset s.written
  whole : s.writeFailed = false → s.state ≠ .released →
    ∀ p ∈ settled, WholeMessage Message.bytes p
  fresh : s.state ≠ .released → s.pendingWrites = [] → s.currentWriteOffset = 0

/-- What was accepted has been queued or is on its way to the actor. -/
def Accounted (s : PtyIoActor) : Prop :=
  s.accepted.filter (· ≠ []) = inputs s.queued ++ s.dataQueue.filter (· ≠ [])

/-- `begin_handoff` is about to return `Ok`. -/
def Begun (s : PtyIoActor) : Prop := s.controller = .beginning ∧ s.reply = some true

/-- No input is on its way to a PTY that is handed over. -/
structure Emptied (s : PtyIoActor) : Prop where
  shut : s.controller = .beginning → s.accepting = false
  dataQueue : s.Begun → s.dataQueue = []
  pendingWrites : s.Begun → inputs s.pendingWrites = []
  unreleased : s.Begun → s.state ≠ .released

/-- The queue of writes is as it was. -/
structure SameWrites (s s' : PtyIoActor) : Prop where
  queued : s'.queued = s.queued
  pendingWrites : s'.pendingWrites = s.pendingWrites
  currentWriteOffset : s'.currentWriteOffset = s.currentWriteOffset
  written : s'.written = s.written
  writeFailed : s'.writeFailed = s.writeFailed
  accepted : s'.accepted = s.accepted
  dataQueue : s'.dataQueue = s.dataQueue
  released : s.state = .released → s'.state = .released

section
variable {s s' s'' : PtyIoActor} {settled : List (Message × Nat)}

lemma SameWrites.refl (s : PtyIoActor) : SameWrites s s :=
  ⟨rfl, rfl, rfl, rfl, rfl, rfl, rfl, id⟩

lemma SameWrites.trans (h : SameWrites s s') (h' : SameWrites s' s'') : SameWrites s s'' :=
  ⟨h'.queued.trans h.queued, h'.pendingWrites.trans h.pendingWrites,
    h'.currentWriteOffset.trans h.currentWriteOffset, h'.written.trans h.written,
    h'.writeFailed.trans h.writeFailed, h'.accepted.trans h.accepted,
    h'.dataQueue.trans h.dataQueue, h'.released ∘ h.released⟩

lemma SameWrites.delivers (hs : SameWrites s s') (h : s.Delivers settled) :
    s'.Delivers settled where
  outlet := by
    rw [hs.queued, hs.pendingWrites, hs.currentWriteOffset, hs.written]
    exact h.outlet
  whole hfailed hreleased := h.whole (hs.writeFailed ▸ hfailed) (hreleased ∘ hs.released)
  fresh hreleased hnone := by
    rw [hs.currentWriteOffset]
    exact h.fresh (hreleased ∘ hs.released) (hs.pendingWrites ▸ hnone)

lemma SameWrites.accounted (hs : SameWrites s s') (h : s.Accounted) : s'.Accounted := by
  rw [Accounted, hs.accepted, hs.queued, hs.dataQueue]
  exact h

/-! ### The queue of writes -/

lemma Delivers.enqueueWrite (h : s.Delivers settled) (hreleased : s.state ≠ .released)
    (message : Message) : (s.enqueueWrite message).Delivers settled := by
  unfold PtyIoActor.enqueueWrite
  split_ifs
  · exact h
  · exact ⟨h.outlet.enqueue (h.fresh hreleased) message, h.whole,
      fun _ hnone => absurd hnone (List.append_ne_nil_of_right_ne_nil _ (List.cons_ne_nil _ _))⟩

lemma Delivers.enqueueTerminalResponses (h : s.Delivers settled)
    (terminalResponses : List (List UInt8)) :
    (s.enqueueTerminalResponses terminalResponses).Delivers settled := by
  unfold PtyIoActor.enqueueTerminalResponses
  split_ifs with hreleased
  · exact h
  · refine (List.foldlRecOn (motive := fun t : PtyIoActor => t.Delivers settled ∧
      t.state ≠ .released) terminalResponses _ ⟨h, hreleased⟩ fun t ht bytes _ => ?_).1
    have hsame := sameHandshake_enqueueWrite t (.terminalResponse bytes)
    exact ⟨ht.1.enqueueWrite ht.2 _, hsame.state ▸ ht.2⟩

lemma sameWrites_cleared (s : PtyIoActor) : SameWrites s { s with
    resize := none
    nudge := false } :=
  ⟨rfl, rfl, rfl, rfl, rfl, rfl, rfl, id⟩

lemma Delivers.applyPendingControls (h : s.Delivers settled) :
    s.applyPendingControls.Delivers settled := by
  have hcleared := (sameWrites_cleared s).delivers h
  unfold PtyIoActor.applyPendingControls
  dsimp only
  split
  · exact hcleared
  · exact hcleared.enqueueTerminalResponses _

lemma inputs_enqueueWrite_response (s : PtyIoActor) (bytes : List UInt8) :
    inputs (s.enqueueWrite (.terminalResponse bytes)).queued = inputs s.queued ∧
      inputs (s.enqueueWrite (.terminalResponse bytes)).pendingWrites = inputs s.pendingWrites := by
  unfold PtyIoActor.enqueueWrite
  split_ifs
  · exact ⟨rfl, rfl⟩
  · exact ⟨(inputs_append _ _).trans (List.append_nil _),
      (inputs_append _ _).trans (List.append_nil _)⟩

/-- Terminal responses are no input of the user. -/
lemma inputs_enqueueTerminalResponses (s : PtyIoActor) (terminalResponses : List (List UInt8)) :
    inputs (s.enqueueTerminalResponses terminalResponses).queued = inputs s.queued ∧
      inputs (s.enqueueTerminalResponses terminalResponses).pendingWrites =
        inputs s.pendingWrites := by
  unfold PtyIoActor.enqueueTerminalResponses
  split_ifs
  · exact ⟨rfl, rfl⟩
  · refine List.foldlRecOn (motive := fun t : PtyIoActor => inputs t.queued = inputs s.queued ∧
      inputs t.pendingWrites = inputs s.pendingWrites) terminalResponses _ ⟨rfl, rfl⟩
      fun t ht bytes _ => ?_
    obtain ⟨hqueued, hpending⟩ := inputs_enqueueWrite_response t bytes
    exact ⟨hqueued.trans ht.1, hpending.trans ht.2⟩

lemma inputs_applyPendingControls (s : PtyIoActor) :
    inputs s.applyPendingControls.queued = inputs s.queued ∧
      inputs s.applyPendingControls.pendingWrites = inputs s.pendingWrites := by
  unfold PtyIoActor.applyPendingControls
  dsimp only
  split
  · exact ⟨rfl, rfl⟩
  · exact inputs_enqueueTerminalResponses _ _

lemma Accounted.enqueueTerminalResponses (h : s.Accounted)
    (terminalResponses : List (List UInt8)) :
    (s.enqueueTerminalResponses terminalResponses).Accounted := by
  rw [Accounted, (inputs_enqueueTerminalResponses s terminalResponses).1,
    (sameHandles_enqueueTerminalResponses s terminalResponses).accepted,
    (sameHandshake_enqueueTerminalResponses s terminalResponses).dataQueue]
  exact h

lemma Accounted.applyPendingControls (h : s.Accounted) : s.applyPendingControls.Accounted := by
  rw [Accounted, (inputs_applyPendingControls s).1, (sameHandles_applyPendingControls s).accepted,
    (sameHandshake_applyPendingControls s).dataQueue]
  exact h

/-- A data command goes from one queue to the other. -/
lemma Accounted.enqueueInput (h : s.Accounted) {bytes : List UInt8} {rest : List (List UInt8)}
    (hqueue : s.dataQueue = bytes :: rest) :
    (enqueueWrite { s with dataQueue := rest } (.userInput bytes)).Accounted := by
  unfold Accounted at h
  rw [hqueue] at h
  unfold Accounted PtyIoActor.enqueueWrite
  split_ifs with hempty
  · change bytes = [] at hempty
    rw [hempty] at h
    exact h
  · change bytes ≠ [] at hempty
    have hinput : inputs (s.queued ++ [.userInput bytes]) = inputs s.queued ++ [bytes] :=
      inputs_append _ _
    have hkept : (bytes :: rest).filter (· ≠ []) = bytes :: rest.filter (· ≠ []) :=
      List.filter_cons_of_pos (decide_eq_true hempty)
    change s.accepted.filter (· ≠ []) =
      inputs (s.queued ++ [.userInput bytes]) ++ rest.filter (· ≠ [])
    rw [hinput, h, hkept, List.append_assoc, List.singleton_append]

/-! ### A step of the actor -/

/-- What a step of the actor does with the queue of writes. -/
inductive WritesStep (s s' : PtyIoActor) : Prop
  | same (h : SameWrites s s')
  | input (bytes : List UInt8) (rest : List (List UInt8)) (hqueue : s.dataQueue = bytes :: rest)
      (hreleased : s.state ≠ .released)
      (h : SameWrites (enqueueWrite { s with dataQueue := rest } (.userInput bytes)) s')
  | responses (t : PtyIoActor) (terminalResponses : List (List UInt8)) (ht : SameWrites s t)
      (h : SameWrites (t.enqueueTerminalResponses terminalResponses) s')
  | wrote (ret : FlushReturn) (message : Message) (rest : List Message) (n : Nat)
      (hpending : s.pendingWrites = message :: rest)
      (h : s' = s.writeHead ret message rest (.wrote n))
  | dropped (hpending : s'.pendingWrites = []) (hqueued : s'.queued = s.queued)
      (hwritten : s'.written = s.written) (haccepted : s'.accepted = s.accepted)
      (hqueue : s'.dataQueue = s.dataQueue)
      (hwhy : s'.state = .released ∨ s'.writeFailed = true ∧ s'.currentWriteOffset = 0)

lemma sameWrites_sendReply (s : PtyIoActor) (call : Nat) (ok : Bool) :
    SameWrites s (s.sendReply call ok) := by
  obtain hsame | ⟨-, -, hsent⟩ := s.sendReply_cases call ok
  · rw [hsame]
    exact .refl s
  · rw [hsent]
    exact ⟨rfl, rfl, rfl, rfl, rfl, rfl, rfl, id⟩

lemma sameWrites_flushReturns (s : PtyIoActor) (ret : FlushReturn) :
    SameWrites s (s.flushReturns ret) := by
  cases ret <;> exact ⟨rfl, rfl, rfl, rfl, rfl, rfl, rfl, id⟩

lemma WritesStep.applyPendingControls (s : PtyIoActor)
    (h : SameWrites s.applyPendingControls s') : WritesStep s s' := by
  unfold PtyIoActor.applyPendingControls at h
  dsimp only at h
  split at h
  · exact .same ((sameWrites_cleared s).trans h)
  · exact .responses _ _ (sameWrites_cleared s) h

lemma WritesStep.drainControlCommand (hreleased : s.state ≠ .released) :
    WritesStep s s.drainControlCommand := by
  unfold PtyIoActor.drainControlCommand
  split
  case h_2 => exact .same ⟨rfl, rfl, rfl, rfl, rfl, rfl, rfl, id⟩
  case h_1 c rest hqueue =>
    have hpop : SameWrites s { s with controlQueue := rest } :=
      ⟨rfl, rfl, rfl, rfl, rfl, rfl, rfl, id⟩
    cases c with
    | beginHandoff n => exact .same ⟨rfl, rfl, rfl, rfl, rfl, rfl, rfl, id⟩
    | duplicateForHandoff n => exact .same (hpop.trans (sameWrites_sendReply _ n _))
    | foregroundProcessGroup => exact .same hpop
    | rollbackHandoff n =>
      have hrunning : SameWrites s { s with
          controlQueue := rest
          state := .running } :=
        ⟨rfl, rfl, rfl, rfl, rfl, rfl, rfl, fun h => absurd h hreleased⟩
      unfold handleControlCommand
      dsimp only
      rw [if_neg hreleased]
      exact .same (hrunning.trans (sameWrites_sendReply _ n true))
    | releaseAfterCommit n =>
      have hsent := sameWrites_sendReply { s with
        controlQueue := rest
        state := .released
        pendingWrites := []
        phase := .exiting .released } n true
      exact .dropped hsent.pendingWrites hsent.queued hsent.written hsent.accepted hsent.dataQueue
        (.inl (hsent.released rfl))
    | shutdown => exact .same ⟨rfl, rfl, rfl, rfl, rfl, rfl, rfl, id⟩

lemma WritesStep.beginTurn (hreleased : s.state ≠ .released) (call : Nat) (deadline : Bool) :
    WritesStep s (s.beginTurn call deadline) := by
  have hended (state : ActorState) : SameWrites s { s with
      state := state
      phase := .drainControl } :=
    ⟨rfl, rfl, rfl, rfl, rfl, rfl, rfl, fun h => absurd h hreleased⟩
  unfold PtyIoActor.beginTurn
  split_ifs
  · exact .same ((hended .quiesced).trans (sameWrites_sendReply _ call true))
  · exact .same ((hended s.state).trans (sameWrites_sendReply _ call false))
  · exact .same ⟨rfl, rfl, rfl, rfl, rfl, rfl, rfl, id⟩

lemma WritesStep.writeHead {ret : FlushReturn} {message : Message} {rest : List Message}
    (hpending : s.pendingWrites = message :: rest) (outcome : WriteOutcome) :
    WritesStep s (s.writeHead ret message rest outcome) := by
  cases outcome with
  | wrote n => exact .wrote ret message rest n hpending rfl
  | wouldBlock => exact .same (sameWrites_flushReturns s ret)
  | interrupted => exact .same (sameWrites_flushReturns s ret)
  | failed =>
    have hreturned := sameWrites_flushReturns { s with
      pendingWrites := []
      currentWriteOffset := 0
      writeFailed := true } ret
    exact .dropped hreturned.pendingWrites hreturned.queued hreturned.written hreturned.accepted
      hreturned.dataQueue (.inr ⟨hreturned.writeFailed, hreturned.currentWriteOffset⟩)

/-- On the way through the loop nothing happens to the queue of writes. -/
lemma sameWrites_phase (s : PtyIoActor) (p : Phase) : SameWrites s { s with phase := p } :=
  ⟨rfl, rfl, rfl, rfl, rfl, rfl, rfl, id⟩

lemma Handshake.writesStep (h : s.Handshake) {event : ActorEvent}
    (hstep : s.actorStep event = some s') : WritesStep s s' := by
  have hunreleased (hlive : s.Live) : s.state ≠ .released := h.agreed.unreleased hlive
  unfold PtyIoActor.actorStep at hstep
  split at hstep
  case h_1 hphase =>
    cases hstep
    exact .drainControlCommand (hunreleased (by rw [Live, hphase]; rfl))
  case h_2 hphase =>
    have hlive : s.Live := by rw [Live, hphase]; rfl
    cases hstep
    unfold PtyIoActor.drainDataCommand
    split
    case h_1 bytes rest hqueue =>
      have hrunning : s.state = .running := by
        cases hstate : s.state with
        | running => rfl
        | quiesced =>
          rw [h.agreed.empty hlive (.inr hstate)] at hqueue
          cases hqueue
        | released => exact absurd hstate (hunreleased hlive)
      unfold handleDataCommand
      dsimp only
      rw [if_pos hrunning]
      exact .input bytes rest hqueue (hunreleased hlive) (.refl _)
    case h_2 => exact .same (sameWrites_phase s _)
  case h_3 =>
    cases hstep
    exact .applyPendingControls s (sameWrites_phase _ _)
  case h_4 call hphase =>
    have hlive : s.Live := by rw [Live, hphase]; rfl
    cases hstep
    unfold PtyIoActor.drainPreQuiesceCommand
    split
    case h_1 bytes rest hqueue =>
      dsimp only
      rw [if_pos (hunreleased hlive)]
      exact .input bytes rest hqueue (hunreleased hlive) (.refl _)
    case h_2 => exact .same (sameWrites_phase s _)
  case h_5 call hphase =>
    cases hstep
    unfold PtyIoActor.beginApplyControls
    dsimp only
    split_ifs
    · exact .applyPendingControls s ((sameWrites_phase _ _).trans (sameWrites_sendReply _ call false))
    · exact .applyPendingControls s (sameWrites_phase _ _)
  case h_6 call hphase =>
    cases hstep
    exact .beginTurn (hunreleased (by rw [Live, hphase]; rfl)) call false
  case h_7 call hphase =>
    cases hstep
    exact .beginTurn (hunreleased (by rw [Live, hphase]; rfl)) call true
  case h_8 ret _ =>
    split_ifs at hstep
    cases hstep
    exact .same (sameWrites_flushReturns s ret)
  case h_9 ret outcome _ =>
    split at hstep
    case h_1 => cases hstep
    case h_2 message rest hpending =>
      cases hstep
      exact .writeHead hpending outcome
  case h_10 wake writeReady readReady _ =>
    cases hstep
    unfold PtyIoActor.pollReady
    split_ifs <;> exact .same (sameWrites_phase s _)
  case h_11 =>
    cases hstep
    exact .same (sameWrites_phase s _)
  case h_12 outcome _ =>
    cases hstep
    cases outcome with
    | data bytes terminalResponses =>
      exact .responses _ terminalResponses (sameWrites_phase s .drainControl) (.refl _)
    | _ => exact .same (sameWrites_phase s _)
  case h_13 =>
    cases hstep
    exact .same (sameWrites_phase s _)
  case h_14 =>
    cases hstep
    exact .same (sameWrites_phase s _)
  case h_15 => cases hstep

lemma Delivers.wrote (h : s.Delivers settled) {ret : FlushReturn} {message : Message}
    {rest : List Message} (hpending : s.pendingWrites = message :: rest) (n : Nat) :
    ∃ settled', (s.writeHead ret message rest (.wrote n)).Delivers settled' := by
  have houtlet := h.outlet
  rw [hpending] at houtlet
  have hadvanced := houtlet.advance n
  unfold PtyIoActor.writeHead
  dsimp only
  split_ifs with hzero hlast
  · exact ⟨settled, (sameWrites_flushReturns s ret).delivers h⟩
  · refine ⟨settled ++ [(message, s.currentWriteOffset + n)], hadvanced.pop,
      fun hfailed hreleased p hp => ?_, fun _ _ => rfl⟩
    rcases List.mem_append.mp hp with hold | hnew
    · exact h.whole hfailed hreleased p hold
    · rw [List.mem_singleton.mp hnew]
      exact hlast
  · have hsame : PtyIoActor.Delivers { s with
        written := s.written ++ (message.bytes.drop s.currentWriteOffset).take n
        currentWriteOffset := s.currentWriteOffset + n } settled := by
      refine ⟨?_, h.whole, fun _ hnone => ?_⟩
      · dsimp only
        rw [hpending]
        exact hadvanced
      · rw [hpending] at hnone
        cases hnone
    exact ⟨settled, hsame⟩

lemma WritesStep.delivers (hs : WritesStep s s') (h : s.Delivers settled) :
    ∃ settled', s'.Delivers settled' := by
  cases hs with
  | same hsame => exact ⟨settled, hsame.delivers h⟩
  | input bytes rest hqueue hreleased hsame =>
    have hpop : PtyIoActor.Delivers { s with dataQueue := rest } settled :=
      ⟨h.outlet, h.whole, h.fresh⟩
    exact ⟨settled, hsame.delivers (hpop.enqueueWrite hreleased _)⟩
  | responses t terminalResponses ht hsame =>
    exact ⟨settled, hsame.delivers ((ht.delivers h).enqueueTerminalResponses _)⟩
  | wrote ret message rest n hpending hwritten =>
    rw [hwritten]
    exact h.wrote hpending n
  | dropped hpending hqueued hwritten _ _ hwhy =>
    obtain ⟨settled', hcleared⟩ := h.outlet.clear s'.currentWriteOffset
    refine ⟨settled ++ settled', ?_, fun hfailed hreleased => ?_, fun hreleased _ => ?_⟩
    · rw [hqueued, hpending, hwritten]
      exact hcleared
    · rcases hwhy with hreleased' | ⟨hfailed', -⟩
      · exact absurd hreleased' hreleased
      · rw [hfailed'] at hfailed
        cases hfailed
    · rcases hwhy with hreleased' | ⟨-, hoffset⟩
      · exact absurd hreleased' hreleased
      · exact hoffset

lemma accounted_writeHead (h : s.Accounted) (ret : FlushReturn) (message : Message)
    (rest : List Message) (n : Nat) : (s.writeHead ret message rest (.wrote n)).Accounted := by
  unfold PtyIoActor.writeHead
  dsimp only
  split_ifs
  · exact (sameWrites_flushReturns s ret).accounted h
  · exact h
  · exact h

lemma WritesStep.accounted (hs : WritesStep s s') (h : s.Accounted) : s'.Accounted := by
  cases hs with
  | same hsame => exact hsame.accounted h
  | input bytes rest hqueue _ hsame => exact hsame.accounted (h.enqueueInput hqueue)
  | responses t terminalResponses ht hsame =>
    exact hsame.accounted ((ht.accounted h).enqueueTerminalResponses _)
  | wrote ret message rest n _ hwritten =>
    rw [hwritten]
    exact accounted_writeHead h ret message rest n
  | dropped _ hqueued _ haccepted hqueue _ =>
    rw [Accounted, haccepted, hqueued, hqueue]
    exact h

/-- Without an input on its way none is queued. -/
lemma WritesStep.emptied (hs : WritesStep s s') (hqueue : s.dataQueue = [])
    (hpending : inputs s.pendingWrites = []) :
    s'.dataQueue = [] ∧ inputs s'.pendingWrites = [] := by
  cases hs with
  | same hsame => exact ⟨hsame.dataQueue.trans hqueue, hsame.pendingWrites ▸ hpending⟩
  | input bytes rest hcons _ _ =>
    rw [hqueue] at hcons
    cases hcons
  | responses t terminalResponses ht hsame =>
    obtain ⟨-, hinputs⟩ := inputs_enqueueTerminalResponses t terminalResponses
    refine ⟨?_, ?_⟩
    · rw [hsame.dataQueue, (sameHandshake_enqueueTerminalResponses t _).dataQueue, ht.dataQueue]
      exact hqueue
    · rw [hsame.pendingWrites, hinputs, ht.pendingWrites]
      exact hpending
  | wrote ret message rest n hcons hwritten =>
    have hrest : inputs rest = [] := by
      rw [hcons] at hpending
      refine List.eq_nil_iff_forall_not_mem.mpr fun bytes hbytes => ?_
      obtain ⟨m, hm, hinput⟩ := List.mem_filterMap.mp hbytes
      have hmem : bytes ∈ inputs (message :: rest) :=
        List.mem_filterMap.mpr ⟨m, List.mem_cons_of_mem _ hm, hinput⟩
      rw [hpending] at hmem
      cases hmem
    rw [hwritten]
    unfold PtyIoActor.writeHead
    dsimp only
    split_ifs
    · have hsame := sameWrites_flushReturns s ret
      exact ⟨hsame.dataQueue.trans hqueue, hsame.pendingWrites ▸ hpending⟩
    · exact ⟨hqueue, hrest⟩
    · exact ⟨hqueue, hpending⟩
  | dropped hnone _ _ _ hsame _ => exact ⟨hsame.trans hqueue, hnone ▸ rfl⟩

/-! ### The reply to `begin_handoff` -/

lemma Begun.of_same (hbegun : s'.Begun) (hcontroller : s'.controller = s.controller)
    (hreply : s'.reply = s.reply) : s.Begun :=
  ⟨hcontroller ▸ hbegun.1, hreply ▸ hbegun.2⟩

lemma state_sendReply (s : PtyIoActor) (call : Nat) (ok : Bool) :
    (s.sendReply call ok).state = s.state := by
  obtain hsame | ⟨-, -, hsent⟩ := s.sendReply_cases call ok
  · rw [hsame]
  · rw [hsent]

lemma begun_sendReply {t : PtyIoActor} {n : Nat} {ok : Bool} (hbegun : (t.sendReply n ok).Begun)
    (hcontroller : t.controller = s.controller) (hreply : t.reply = s.reply)
    (hother : n = t.call → ok = true → s.controller ≠ .beginning) : s.Begun := by
  obtain hsame | ⟨hlatest, -, hsent⟩ := t.sendReply_cases n ok
  · rw [hsame] at hbegun
    exact hbegun.of_same hcontroller hreply
  · rw [hsent] at hbegun
    obtain ⟨hbeginning, hok⟩ := hbegun
    exact absurd (hcontroller ▸ hbeginning) (hother hlatest (Option.some.inj hok))

lemma begun_handleControlCommand (hreleased : s.state ≠ .released) {c : PtyIoControlCommand}
    (hbegins : s.controller = .beginning → c.number = some s.call → c = .beginHandoff s.call)
    (hanswered : s.Begun → c.number = none) (hbegun : (s.handleControlCommand c).Begun) :
    s.Begun ∧ (s.handleControlCommand c).state ≠ .released := by
  have hother {n : Nat} (hn : c.number = some n) (hc : c ≠ .beginHandoff s.call)
      (hlatest : n = s.call) : s.controller ≠ .beginning := fun hbeginning =>
    hc (hbegins hbeginning (hlatest ▸ hn))
  cases c with
  | beginHandoff n => exact ⟨hbegun.of_same rfl rfl, hreleased⟩
  | duplicateForHandoff n =>
    change (s.sendReply n _).Begun at hbegun
    change s.Begun ∧ (s.sendReply n _).state ≠ .released
    rw [state_sendReply]
    exact ⟨begun_sendReply hbegun rfl rfl fun hlatest _ => hother rfl (by rintro ⟨⟩) hlatest,
      hreleased⟩
  | foregroundProcessGroup => exact ⟨hbegun, hreleased⟩
  | rollbackHandoff n =>
    unfold handleControlCommand at hbegun ⊢
    dsimp only at hbegun ⊢
    rw [if_neg hreleased] at hbegun ⊢
    rw [state_sendReply]
    exact ⟨begun_sendReply hbegun rfl rfl fun hlatest _ => hother rfl (by rintro ⟨⟩) hlatest,
      fun hrunning => nomatch hrunning⟩
  | releaseAfterCommit n =>
    unfold handleControlCommand at hbegun
    dsimp only at hbegun
    have hbefore : s.Begun :=
      begun_sendReply hbegun rfl rfl fun hlatest _ => hother rfl (by rintro ⟨⟩) hlatest
    cases hanswered hbefore
  | shutdown => exact ⟨hbegun.of_same rfl rfl, hreleased⟩

lemma begun_drainControlCommand (h : s.Handshake) (hphase : s.phase = .drainControl)
    (hbegun : s.drainControlCommand.Begun) :
    s.Begun ∧ s.drainControlCommand.state ≠ .released := by
  have hunreleased : s.state ≠ .released := h.agreed.unreleased (by rw [Live, hphase]; rfl)
  generalize hs' : s.drainControlCommand = s' at hbegun ⊢
  unfold PtyIoActor.drainControlCommand at hs'
  split at hs'
  case h_2 =>
    subst hs'
    exact ⟨hbegun.of_same rfl rfl, hunreleased⟩
  case h_1 c rest hqueue =>
    subst hs'
    have hmem : c ∈ s.controlQueue := hqueue ▸ List.mem_cons_self
    have hpop := begun_handleControlCommand (s := { s with controlQueue := rest }) hunreleased
      (fun hbeginning => h.numbered.begins hbeginning c hmem) (fun hbefore => ?_) hbegun
    · exact ⟨hpop.1.of_same rfl rfl, hpop.2⟩
    · have hcalls := h.numbered.answered (Option.isSome_iff_exists.mpr ⟨true, hbefore.2⟩)
      have hnumbers := (List.append_eq_nil_iff.mp hcalls).2
      exact List.filterMap_eq_nil_iff.mp hnumbers c hmem

/-- The reply that makes `begin_handoff` return `Ok` comes when nothing is left to write. -/
lemma begun_beginTurn {call : Nat} {deadline : Bool} (hbegun : (s.beginTurn call deadline).Begun) :
    s.Begun ∨ s.pendingWrites = [] := by
  unfold PtyIoActor.beginTurn at hbegun
  split_ifs at hbegun with hnone hlate
  · exact .inr hnone
  · exact .inl (begun_sendReply hbegun rfl rfl fun _ hok => nomatch hok)
  · exact .inl (hbegun.of_same rfl rfl)

lemma state_beginTurn {call : Nat} {deadline : Bool} (hunreleased : s.state ≠ .released) :
    (s.beginTurn call deadline).state ≠ .released := by
  unfold PtyIoActor.beginTurn
  split_ifs
  · rw [state_sendReply]
    exact fun hreleased => nomatch hreleased
  · rw [state_sendReply]
    exact hunreleased
  · exact hunreleased

lemma state_writeHead (s : PtyIoActor) (ret : FlushReturn) (message : Message)
    (rest : List Message) (outcome : WriteOutcome) :
    (s.writeHead ret message rest outcome).state = s.state := by
  have hreturns (t : PtyIoActor) : (t.flushReturns ret).state = t.state := by
    cases ret <;> rfl
  cases outcome with
  | wrote n =>
    unfold PtyIoActor.writeHead
    dsimp only
    split_ifs
    · exact hreturns s
    · rfl
    · rfl
  | wouldBlock => exact hreturns s
  | interrupted => exact hreturns s
  | failed => exact hreturns _

/-- Only a control command and the end of a `begin_handoff` change the state or reply. -/
lemma state_actorStep_same {event : ActorEvent} (hstep : s.actorStep event = some s')
    (hphase : s.phase ≠ .drainControl) (hloop : ∀ call, s.phase ≠ .beginLoop call) :
    s'.state = s.state ∧ (s'.Begun → s.Begun) := by
  unfold PtyIoActor.actorStep at hstep
  split at hstep
  case h_1 hdrain => exact absurd hdrain hphase
  case h_2 =>
    cases hstep
    unfold PtyIoActor.drainDataCommand
    split
    case h_1 bytes rest _ =>
      unfold handleDataCommand
      dsimp only
      split_ifs
      · have hsame := sameHandshake_enqueueWrite { s with dataQueue := rest } (.userInput bytes)
        exact ⟨hsame.state, fun hbegun => hbegun.of_same hsame.controller hsame.reply⟩
      · exact ⟨rfl, fun hbegun => hbegun.of_same rfl rfl⟩
    case h_2 => exact ⟨rfl, fun hbegun => hbegun.of_same rfl rfl⟩
  case h_3 =>
    cases hstep
    have hsame := sameHandshake_applyPendingControls s
    exact ⟨hsame.state, fun hbegun => hbegun.of_same hsame.controller hsame.reply⟩
  case h_4 =>
    cases hstep
    unfold PtyIoActor.drainPreQuiesceCommand
    split
    case h_1 bytes rest _ =>
      dsimp only
      split_ifs
      · have hsame := sameHandshake_enqueueWrite { s with dataQueue := rest } (.userInput bytes)
        exact ⟨hsame.state, fun hbegun => hbegun.of_same hsame.controller hsame.reply⟩
      · exact ⟨rfl, fun hbegun => hbegun.of_same rfl rfl⟩
    case h_2 => exact ⟨rfl, fun hbegun => hbegun.of_same rfl rfl⟩
  case h_5 call _ =>
    cases hstep
    have hsame := sameHandshake_applyPendingControls s
    unfold PtyIoActor.beginApplyControls
    dsimp only
    split_ifs
    · rw [state_sendReply]
      exact ⟨hsame.state, fun hbegun =>
        begun_sendReply hbegun hsame.controller hsame.reply fun _ hok => nomatch hok⟩
    · exact ⟨hsame.state, fun hbegun => hbegun.of_same hsame.controller hsame.reply⟩
  case h_6 call hbegin => exact absurd hbegin (hloop call)
  case h_7 call hbegin => exact absurd hbegin (hloop call)
  case h_8 ret _ =>
    split_ifs at hstep
    cases hstep
    cases ret <;> exact ⟨rfl, fun hbegun => hbegun.of_same rfl rfl⟩
  case h_9 ret outcome _ =>
    split at hstep
    case h_1 => cases hstep
    case h_2 message rest _ =>
      cases hstep
      have hsame := sameHandles_writeHead s ret message rest outcome
      exact ⟨state_writeHead s ret message rest outcome,
        fun hbegun => hbegun.of_same hsame.controller (reply_writeHead s ret message rest outcome)⟩
  case h_10 wake writeReady readReady _ =>
    cases hstep
    unfold PtyIoActor.pollReady
    split_ifs <;> exact ⟨rfl, fun hbegun => hbegun.of_same rfl rfl⟩
  case h_11 =>
    cases hstep
    exact ⟨rfl, fun hbegun => hbegun.of_same rfl rfl⟩
  case h_12 outcome _ =>
    cases hstep
    cases outcome with
    | data bytes terminalResponses =>
      have hsame := sameHandshake_enqueueTerminalResponses
        { s with phase := .drainControl } terminalResponses
      exact ⟨hsame.state, fun hbegun => hbegun.of_same hsame.controller hsame.reply⟩
    | _ => exact ⟨rfl, fun hbegun => hbegun.of_same rfl rfl⟩
  case h_13 =>
    cases hstep
    exact ⟨rfl, fun hbegun => hbegun.of_same rfl rfl⟩
  case h_14 =>
    cases hstep
    exact ⟨rfl, fun hbegun => hbegun.of_same rfl rfl⟩
  case h_15 => cases hstep

/-! ### The invariant -/

structure Delivery (s : PtyIoActor) : Prop where
  handshake : s.Handshake
  delivered : ∃ settled, s.Delivers settled
  accounted : s.Accounted
  emptied : s.Emptied

/-- When the reply comes nothing is on its way to the actor. -/
lemma Handshake.begun_actorStep (h : s.Handshake) {event : ActorEvent}
    (hstep : s.actorStep event = some s') (hbegun : s'.Begun) :
    (s.Begun ∨ s.dataQueue = [] ∧ s.pendingWrites = [] ∧ s.state ≠ .released) ∧
      (s.state ≠ .released → s'.state ≠ .released) := by
  by_cases hdrain : s.phase = .drainControl
  · unfold PtyIoActor.actorStep at hstep
    rw [hdrain] at hstep
    cases event with
    | go =>
      cases hstep
      obtain ⟨hbefore, hreleased⟩ := begun_drainControlCommand h hdrain hbegun
      exact ⟨.inl hbefore, fun _ => hreleased⟩
    | _ => cases hstep
  · by_cases hloop : ∃ call, s.phase = .beginLoop call
    · obtain ⟨call, hcall⟩ := hloop
      have hlive : s.Live := by rw [Live, hcall]; rfl
      have hturn {deadline : Bool} (hb : (s.beginTurn call deadline).Begun) :
          (s.Begun ∨ s.dataQueue = [] ∧ s.pendingWrites = [] ∧ s.state ≠ .released) ∧
            (s.state ≠ .released → (s.beginTurn call deadline).state ≠ .released) := by
        refine ⟨?_, state_beginTurn⟩
        rcases begun_beginTurn hb with hbefore | hnone
        · exact .inl hbefore
        · refine .inr ⟨h.agreed.empty hlive (.inl ?_), hnone, h.agreed.unreleased hlive⟩
          rw [hcall]
          trivial
      unfold PtyIoActor.actorStep at hstep
      rw [hcall] at hstep
      cases event with
      | go =>
        cases hstep
        exact hturn hbegun
      | deadline =>
        cases hstep
        exact hturn hbegun
      | _ => cases hstep
    · obtain ⟨hstate, hbefore⟩ :=
        state_actorStep_same hstep hdrain fun call hcall => hloop ⟨call, hcall⟩
      exact ⟨.inl (hbefore hbegun), fun hreleased => hstate ▸ hreleased⟩

lemma Delivery.actorStep (h : s.Delivery) {event : ActorEvent}
    (hstep : s.actorStep event = some s') (hs' : s'.Handshake) : s'.Delivery := by
  obtain ⟨settled, hdelivers⟩ := h.delivered
  have hwrites := h.handshake.writesStep hstep
  have hsame := sameHandles_actorStep hstep
  have hboth (hbegun : s'.Begun) : s'.dataQueue = [] ∧ inputs s'.pendingWrites = [] := by
    obtain ⟨hbefore | ⟨hqueue, hpending, -⟩, -⟩ := h.handshake.begun_actorStep hstep hbegun
    · exact hwrites.emptied (h.emptied.dataQueue hbefore) (h.emptied.pendingWrites hbefore)
    · exact hwrites.emptied hqueue (hpending ▸ rfl)
  refine ⟨hs', hwrites.delivers hdelivers, hwrites.accounted h.accounted, ⟨fun hbeginning => ?_,
    fun hbegun => (hboth hbegun).1, fun hbegun => (hboth hbegun).2, fun hbegun => ?_⟩⟩
  · rw [hsame.controller] at hbeginning
    exact hsame.accepting.trans (h.emptied.shut hbeginning)
  · obtain ⟨hbefore | ⟨-, -, hreleased⟩, hkept⟩ := h.handshake.begun_actorStep hstep hbegun
    · exact hkept (h.emptied.unreleased hbefore)
    · exact hkept hreleased

/-- The handles leave the queue of writes alone, and only the actor sends the reply. -/
lemma Delivery.of_handles (h : s.Delivery) (hs' : s'.Handshake) (hsame : SameWrites s s')
    (hstate : s'.state = s.state) (hshut : s'.controller = .beginning → s'.accepting = false)
    (hbegun : s'.Begun → s.Begun) : s'.Delivery := by
  obtain ⟨settled, hdelivers⟩ := h.delivered
  refine ⟨hs', ⟨settled, hsame.delivers hdelivers⟩, hsame.accounted h.accounted, ⟨hshut,
    fun hb => ?_, fun hb => ?_, fun hb => ?_⟩⟩
  · exact hsame.dataQueue.trans (h.emptied.dataQueue (hbegun hb))
  · rw [hsame.pendingWrites]
    exact h.emptied.pendingWrites (hbegun hb)
  · rw [hstate]
    exact h.emptied.unreleased (hbegun hb)

lemma Delivery.accept (h : s.Delivery) (hopen : s.accepting = true) (bytes : List UInt8) :
    (s.accept bytes).Delivery := by
  obtain ⟨settled, hdelivers⟩ := h.delivered
  have hshut (hbegun : (s.accept bytes).Begun) : False := by
    have hclosed := h.emptied.shut hbegun.1
    rw [hopen] at hclosed
    cases hclosed
  have haccounted : (s.accept bytes).Accounted := by
    have hold := h.accounted
    unfold Accounted at hold ⊢
    unfold PtyIoActor.accept
    dsimp only
    rw [List.filter_append, List.filter_append, hold, List.append_assoc]
  exact ⟨h.handshake.accept hopen bytes,
    ⟨settled, ⟨hdelivers.outlet, hdelivers.whole, hdelivers.fresh⟩⟩, haccounted,
    ⟨h.emptied.shut, fun hb => (hshut hb).elim, fun hb => (hshut hb).elim,
      fun hb => (hshut hb).elim⟩⟩

end

end PtyIoActor

open PtyIoActor

lemma PtyAction.Step.delivery {s s' : PtyIoActor} {a : PtyAction} (hs : a.Step s s')
    (h : s.Delivery) : s'.Delivery := by
  have hs' := hs.handshake h.handshake
  have hshut := h.emptied.shut
  cases a with
  | reserve =>
    obtain ⟨-, -, -, rfl⟩ := hs
    exact h.of_handles hs' ⟨rfl, rfl, rfl, rfl, rfl, rfl, rfl, id⟩ rfl hshut id
  | sendReserved bytes =>
    obtain ⟨-, rfl⟩ := hs
    have hpermit : Handshake { s with permits := s.permits - 1 } :=
      h.handshake.same ⟨rfl, rfl, rfl, rfl, rfl, rfl, rfl, rfl, rfl⟩
    have htaken : Delivery { s with permits := s.permits - 1 } :=
      h.of_handles hpermit ⟨rfl, rfl, rfl, rfl, rfl, rfl, rfl, id⟩ rfl hshut id
    unfold PtyIoActor.sendReserved
    dsimp only
    split_ifs with hopen
    · exact htaken.accept hopen bytes
    · exact htaken
  | tryWriteUserInput bytes =>
    obtain ⟨-, rfl⟩ := hs
    unfold PtyIoActor.tryWriteUserInput
    split_ifs with hopen
    · rw [Bool.and_eq_true, Bool.and_eq_true] at hopen
      exact h.accept hopen.1.1 bytes
    · exact h
  | resize terminalResponses =>
    obtain ⟨-, rfl⟩ := hs
    exact h.of_handles hs' ⟨rfl, rfl, rfl, rfl, rfl, rfl, rfl, id⟩ rfl hshut id
  | nudgeChildRedrawAfterHandoff =>
    obtain ⟨-, rfl⟩ := hs
    exact h.of_handles hs' ⟨rfl, rfl, rfl, rfl, rfl, rfl, rfl, id⟩ rfl hshut id
  | foregroundProcessGroupId =>
    obtain ⟨-, -, rfl⟩ := hs
    exact h.of_handles hs' ⟨rfl, rfl, rfl, rfl, rfl, rfl, rfl, id⟩ rfl hshut id
  | shutdownClose =>
    obtain ⟨-, rfl⟩ := hs
    exact h.of_handles hs' ⟨rfl, rfl, rfl, rfl, rfl, rfl, rfl, id⟩ rfl (fun _ => rfl) id
  | shutdownSend =>
    obtain ⟨-, rfl⟩ := hs
    exact h.of_handles hs' ⟨rfl, rfl, rfl, rfl, rfl, rfl, rfl, id⟩ rfl hshut id
  | dropHandles =>
    obtain ⟨-, -, -, -, rfl⟩ := hs
    exact h.of_handles hs' ⟨rfl, rfl, rfl, rfl, rfl, rfl, rfl, id⟩ rfl hshut id
  | beginHandoff =>
    obtain ⟨-, hidle, rfl⟩ := hs
    unfold PtyIoActor.beginHandoff at hs' ⊢
    split_ifs at hs' ⊢
    · refine h.of_handles hs' ⟨rfl, rfl, rfl, rfl, rfl, rfl, rfl, id⟩ rfl (fun hbeginning => ?_) id
      cases hidle.symm.trans hbeginning
    · exact h.of_handles hs' ⟨rfl, rfl, rfl, rfl, rfl, rfl, rfl, id⟩ rfl (fun _ => rfl)
        fun hbegun => nomatch hbegun.2
  | beginReplied =>
    obtain ⟨ok, -, -, rfl⟩ := hs
    cases ok <;> exact h.of_handles hs' ⟨rfl, rfl, rfl, rfl, rfl, rfl, rfl, id⟩ rfl
      (fun hbeginning => nomatch hbeginning) fun hbegun => nomatch hbegun.1
  | beginTimedOut =>
    obtain ⟨-, -, rfl⟩ := hs
    exact h.of_handles hs' ⟨rfl, rfl, rfl, rfl, rfl, rfl, rfl, id⟩ rfl
      (fun hbeginning => nomatch hbeginning) fun hbegun => nomatch hbegun.1
  | rollbackHandoff =>
    obtain ⟨inBegin, rfl⟩ : ∃ inBegin, s' = s.rollbackHandoff inBegin := by
      obtain ⟨-, ⟨-, hfalse⟩ | ⟨-, htrue⟩⟩ := hs
      · exact ⟨false, hfalse⟩
      · exact ⟨true, htrue⟩
    unfold PtyIoActor.rollbackHandoff at hs' ⊢
    dsimp only at hs' ⊢
    split_ifs at hs' ⊢ <;> exact h.of_handles hs' ⟨rfl, rfl, rfl, rfl, rfl, rfl, rfl, id⟩ rfl
      (fun hbeginning => nomatch hbeginning) fun hbegun => nomatch hbegun.1
  | rollbackReplied =>
    obtain ⟨inBegin, ok, -, -, rfl⟩ := hs
    cases ok <;> exact h.of_handles hs' ⟨rfl, rfl, rfl, rfl, rfl, rfl, rfl, id⟩ rfl
      (fun hbeginning => nomatch hbeginning) fun hbegun => nomatch hbegun.1
  | rollbackTimedOut =>
    obtain ⟨inBegin, -, -, rfl⟩ := hs
    exact h.of_handles hs' ⟨rfl, rfl, rfl, rfl, rfl, rfl, rfl, id⟩ rfl
      (fun hbeginning => nomatch hbeginning) fun hbegun => nomatch hbegun.1
  | duplicateForHandoff =>
    obtain ⟨-, -, rfl⟩ := hs
    split_ifs at hs' ⊢
    · exact h
    · exact h.of_handles hs' ⟨rfl, rfl, rfl, rfl, rfl, rfl, rfl, id⟩ rfl
        (fun hbeginning => nomatch hbeginning) fun hbegun => nomatch hbegun.1
  | duplicateReturned =>
    obtain ⟨-, rfl⟩ := hs
    exact h.of_handles hs' ⟨rfl, rfl, rfl, rfl, rfl, rfl, rfl, id⟩ rfl
      (fun hbeginning => nomatch hbeginning) fun hbegun => nomatch hbegun.1
  | releaseClose =>
    obtain ⟨-, -, rfl⟩ := hs
    exact h.of_handles hs' ⟨rfl, rfl, rfl, rfl, rfl, rfl, rfl, id⟩ rfl
      (fun hbeginning => nomatch hbeginning) fun hbegun => nomatch hbegun.1
  | releaseSend =>
    obtain ⟨-, rfl⟩ := hs
    split_ifs at hs' ⊢ <;> exact h.of_handles hs' ⟨rfl, rfl, rfl, rfl, rfl, rfl, rfl, id⟩ rfl
      (fun hbeginning => nomatch hbeginning) fun hbegun => nomatch hbegun.1
  | releaseReturned =>
    obtain ⟨-, rfl⟩ := hs
    exact h.of_handles hs' ⟨rfl, rfl, rfl, rfl, rfl, rfl, rfl, id⟩ rfl
      (fun hbeginning => nomatch hbeginning) fun hbegun => nomatch hbegun.1
  | actor event => exact h.actorStep hs hs'

namespace PtyIoActor

lemma start_delivery (initiallyQuiesced : Bool) : (start initiallyQuiesced).Delivery :=
  ⟨start_handshake initiallyQuiesced, ⟨[], outlet_nil, fun _ _ _ hp => (nomatch hp), fun _ _ => rfl⟩,
    rfl, ⟨fun hbeginning => (nomatch hbeginning), fun hbegun => (nomatch hbegun.1),
      fun hbegun => (nomatch hbegun.1), fun hbegun => nomatch hbegun.1⟩⟩

end PtyIoActor

/-! ### What drops an input -/

/-- An action after which the actor may drop what it has accepted. -/
def PtyAction.Drops : PtyAction → Prop
  | shutdownSend | dropHandles | releaseSend => True
  | actor (.write .failed) | actor .pollFailed => True
  | actor (.read .eof) | actor (.read .failed) => True
  | _ => False

namespace PtyIoActor

/-- Nothing has happened that drops an input. -/
structure Undisturbed (s : PtyIoActor) : Prop where
  live : s.Live
  writeFailed : s.writeFailed = false
  handlesDropped : s.handlesDropped = false
  controlQueue : ∀ c ∈ s.controlQueue, c ≠ .shutdown ∧ ∀ n, c ≠ .releaseAfterCommit n

section
variable {s s' : PtyIoActor}

/-- A step within the loop that fails no write. -/
lemma Undisturbed.of_loop (h : s.Undisturbed) (hlive : s'.Live)
    (hfailed : s'.writeFailed = s.writeFailed) (hdropped : s'.handlesDropped = s.handlesDropped)
    (hqueue : s'.controlQueue.Sublist s.controlQueue) : s'.Undisturbed where
  live := hlive
  writeFailed := hfailed.trans h.writeFailed
  handlesDropped := hdropped.trans h.handlesDropped
  controlQueue c hc := h.controlQueue c (hqueue.subset hc)

lemma Undisturbed.sendReply (h : s.Undisturbed) (call : Nat) (ok : Bool) :
    (s.sendReply call ok).Undisturbed := by
  obtain hsame | ⟨-, -, hsent⟩ := s.sendReply_cases call ok
  · rw [hsame]
    exact h
  · rw [hsent]
    exact h.of_loop h.live rfl rfl (List.Sublist.refl _)

lemma Undisturbed.enqueueWrite (h : s.Undisturbed) (message : Message) :
    (s.enqueueWrite message).Undisturbed := by
  unfold PtyIoActor.enqueueWrite
  split_ifs
  · exact h
  · exact h.of_loop h.live rfl rfl (List.Sublist.refl _)

lemma Undisturbed.enqueueTerminalResponses (h : s.Undisturbed)
    (terminalResponses : List (List UInt8)) :
    (s.enqueueTerminalResponses terminalResponses).Undisturbed := by
  unfold PtyIoActor.enqueueTerminalResponses
  split_ifs
  · exact h
  · exact List.foldlRecOn terminalResponses _ h fun t ht bytes _ => ht.enqueueWrite _

lemma Undisturbed.applyPendingControls (h : s.Undisturbed) :
    s.applyPendingControls.Undisturbed := by
  have hcleared : Undisturbed { s with
      resize := none
      nudge := false } :=
    h.of_loop h.live rfl rfl (List.Sublist.refl _)
  unfold PtyIoActor.applyPendingControls
  dsimp only
  split
  · exact hcleared
  · exact hcleared.enqueueTerminalResponses _

lemma Undisturbed.setPhase (h : s.Undisturbed) {p : Phase} (hp : p.exitCause = none) :
    Undisturbed { s with phase := p } :=
  h.of_loop hp rfl rfl (List.Sublist.refl _)

lemma Undisturbed.flushReturns (h : s.Undisturbed) (ret : FlushReturn) :
    (s.flushReturns ret).Undisturbed := by
  cases ret with
  | beginHandoff call => exact h.setPhase rfl
  | poll => exact h.setPhase rfl
  | afterPoll readReady =>
    unfold PtyIoActor.flushReturns PtyIoActor.afterPoll
    dsimp only
    split_ifs <;> exact h.setPhase rfl

lemma Undisturbed.drainControlCommand (h : s.Undisturbed) : s.drainControlCommand.Undisturbed := by
  unfold PtyIoActor.drainControlCommand
  split
  case h_1 c rest hqueue =>
    obtain ⟨hshutdown, hrelease⟩ := h.controlQueue c (hqueue ▸ List.mem_cons_self)
    have hpop : Undisturbed { s with controlQueue := rest } :=
      h.of_loop h.live rfl rfl (hqueue ▸ List.sublist_cons_self c rest)
    cases c with
    | beginHandoff n => exact hpop.setPhase rfl
    | duplicateForHandoff n => exact hpop.sendReply n _
    | foregroundProcessGroup => exact hpop
    | rollbackHandoff n =>
      unfold handleControlCommand
      dsimp only
      split_ifs
      · exact hpop.sendReply n false
      · have hrunning : Undisturbed { s with
            controlQueue := rest
            state := .running } :=
          hpop.of_loop hpop.live rfl rfl (List.Sublist.refl _)
        exact hrunning.sendReply n true
    | releaseAfterCommit n => exact absurd rfl (hrelease n)
    | shutdown => exact absurd rfl hshutdown
  case h_2 =>
    refine h.setPhase ?_
    rw [h.handlesDropped]
    rfl

lemma Undisturbed.drainDataCommand (h : s.Undisturbed) : s.drainDataCommand.Undisturbed := by
  unfold PtyIoActor.drainDataCommand
  split
  case h_1 bytes rest _ =>
    have hpop : Undisturbed { s with dataQueue := rest } :=
      h.of_loop h.live rfl rfl (List.Sublist.refl _)
    unfold handleDataCommand
    dsimp only
    split_ifs
    · exact hpop.enqueueWrite _
    · exact hpop
  case h_2 =>
    refine h.setPhase ?_
    rw [h.handlesDropped]
    rfl

lemma Undisturbed.drainPreQuiesceCommand (h : s.Undisturbed) (call : Nat) :
    (s.drainPreQuiesceCommand call).Undisturbed := by
  unfold PtyIoActor.drainPreQuiesceCommand
  split
  case h_1 bytes rest _ =>
    have hpop : Undisturbed { s with dataQueue := rest } :=
      h.of_loop h.live rfl rfl (List.Sublist.refl _)
    dsimp only
    split_ifs
    · exact hpop.enqueueWrite _
    · exact hpop
  case h_2 => exact h.setPhase rfl

lemma Undisturbed.beginTurn (h : s.Undisturbed) (call : Nat) (deadline : Bool) :
    (s.beginTurn call deadline).Undisturbed := by
  have hended (state : ActorState) : Undisturbed { s with
      state := state
      phase := .drainControl } :=
    h.of_loop rfl rfl rfl (List.Sublist.refl _)
  unfold PtyIoActor.beginTurn
  split_ifs
  · exact (hended .quiesced).sendReply call true
  · exact (hended s.state).sendReply call false
  · exact h.setPhase rfl

lemma Undisturbed.writeHead (h : s.Undisturbed) (ret : FlushReturn) (message : Message)
    (rest : List Message) {outcome : WriteOutcome}
    (hkeeps : ¬(PtyAction.actor (.write outcome)).Drops) :
    (s.writeHead ret message rest outcome).Undisturbed := by
  cases outcome with
  | wrote n =>
    unfold PtyIoActor.writeHead
    dsimp only
    split_ifs
    · exact h.flushReturns ret
    · exact h.of_loop h.live rfl rfl (List.Sublist.refl _)
    · exact h.of_loop h.live rfl rfl (List.Sublist.refl _)
  | wouldBlock => exact h.flushReturns ret
  | interrupted => exact h.flushReturns ret
  | failed => exact absurd trivial hkeeps

lemma Undisturbed.actorStep (h : s.Undisturbed) {event : ActorEvent}
    (hkeeps : ¬(PtyAction.actor event).Drops) (hstep : s.actorStep event = some s') :
    s'.Undisturbed := by
  have hlive := h.live
  unfold PtyIoActor.actorStep at hstep
  split at hstep
  case h_1 =>
    cases hstep
    exact h.drainControlCommand
  case h_2 =>
    cases hstep
    exact h.drainDataCommand
  case h_3 =>
    cases hstep
    exact h.applyPendingControls.setPhase rfl
  case h_4 call _ =>
    cases hstep
    exact h.drainPreQuiesceCommand call
  case h_5 call _ =>
    cases hstep
    unfold PtyIoActor.beginApplyControls
    dsimp only
    split_ifs
    · have hleft : Undisturbed { s.applyPendingControls with phase := .drainControl } :=
        h.applyPendingControls.setPhase rfl
      exact hleft.sendReply call false
    · exact h.applyPendingControls.setPhase rfl
  case h_6 call _ =>
    cases hstep
    exact h.beginTurn call false
  case h_7 call _ =>
    cases hstep
    exact h.beginTurn call true
  case h_8 ret _ =>
    split_ifs at hstep
    cases hstep
    exact h.flushReturns ret
  case h_9 ret outcome _ =>
    split at hstep
    case h_1 => cases hstep
    case h_2 message rest _ =>
      cases hstep
      exact h.writeHead ret message rest hkeeps
  case h_10 wake writeReady readReady _ =>
    cases hstep
    unfold PtyIoActor.pollReady
    split_ifs
    · exact h.setPhase rfl
    · exact h.setPhase rfl
    · exact h.flushReturns (.afterPoll readReady)
  case h_11 => exact absurd trivial hkeeps
  case h_12 outcome _ =>
    cases hstep
    cases outcome with
    | data bytes terminalResponses =>
      have hread : Undisturbed { s with phase := .drainControl } := h.setPhase rfl
      exact hread.enqueueTerminalResponses terminalResponses
    | wouldBlock => exact h.setPhase rfl
    | interrupted => exact h.setPhase rfl
    | eof => exact absurd trivial hkeeps
    | failed => exact absurd trivial hkeeps
  case h_13 cause hphase =>
    rw [Live, hphase] at hlive
    cases hlive
  case h_14 cause hphase =>
    rw [Live, hphase] at hlive
    cases hlive
  case h_15 => cases hstep

lemma Undisturbed.queueCommand (h : s.Undisturbed) {c : PtyIoControlCommand}
    (hc : c ≠ .shutdown ∧ ∀ n, c ≠ .releaseAfterCommit n) :
    Undisturbed { s with controlQueue := s.controlQueue ++ [c] } where
  live := h.live
  writeFailed := h.writeFailed
  handlesDropped := h.handlesDropped
  controlQueue c' hc' := by
    rcases List.mem_append.mp hc' with hold | hnew
    · exact h.controlQueue c' hold
    · exact List.mem_singleton.mp hnew ▸ hc

lemma Undisturbed.callActor (h : s.Undisturbed) {command : Nat → PtyIoControlCommand}
    (controller : Controller)
    (hcommand : ∀ n, command n ≠ .shutdown ∧ ∀ m, command n ≠ .releaseAfterCommit m) :
    (s.callActor command controller).Undisturbed :=
  (h.queueCommand (hcommand (s.call + 1))).of_loop h.live rfl rfl (List.Sublist.refl _)

end

end PtyIoActor

lemma PtyAction.Step.undisturbed {s s' : PtyIoActor} {a : PtyAction} (hs : a.Step s s')
    (hkeeps : ¬a.Drops) (h : s.Undisturbed) : s'.Undisturbed := by
  have hsame {t : PtyIoActor} (hlive : t.Live) (hfailed : t.writeFailed = s.writeFailed)
      (hdropped : t.handlesDropped = s.handlesDropped)
      (hqueue : t.controlQueue = s.controlQueue) : t.Undisturbed :=
    h.of_loop hlive hfailed hdropped (hqueue ▸ List.Sublist.refl _)
  cases a with
  | reserve =>
    obtain ⟨-, -, -, rfl⟩ := hs
    exact hsame h.live rfl rfl rfl
  | sendReserved bytes =>
    obtain ⟨-, rfl⟩ := hs
    unfold PtyIoActor.sendReserved
    dsimp only
    split_ifs <;> exact hsame h.live rfl rfl rfl
  | tryWriteUserInput bytes =>
    obtain ⟨-, rfl⟩ := hs
    unfold PtyIoActor.tryWriteUserInput
    split_ifs
    · exact hsame h.live rfl rfl rfl
    · exact h
  | resize terminalResponses =>
    obtain ⟨-, rfl⟩ := hs
    exact hsame h.live rfl rfl rfl
  | nudgeChildRedrawAfterHandoff =>
    obtain ⟨-, rfl⟩ := hs
    exact hsame h.live rfl rfl rfl
  | foregroundProcessGroupId =>
    obtain ⟨-, -, rfl⟩ := hs
    exact h.queueCommand ⟨(nomatch ·), fun _ => (nomatch ·)⟩
  | shutdownClose =>
    obtain ⟨-, rfl⟩ := hs
    exact hsame h.live rfl rfl rfl
  | shutdownSend => exact absurd trivial hkeeps
  | dropHandles => exact absurd trivial hkeeps
  | beginHandoff =>
    obtain ⟨-, -, rfl⟩ := hs
    unfold PtyIoActor.beginHandoff
    split_ifs
    · exact hsame h.live rfl rfl rfl
    · refine Undisturbed.callActor ?_ _ fun n => ⟨?_, fun m => ?_⟩
      · exact hsame h.live rfl rfl rfl
      · exact fun hn => nomatch hn
      · exact fun hn => nomatch hn
  | beginReplied =>
    obtain ⟨ok, -, -, rfl⟩ := hs
    cases ok <;> exact hsame h.live rfl rfl rfl
  | beginTimedOut =>
    obtain ⟨-, -, rfl⟩ := hs
    exact hsame h.live rfl rfl rfl
  | rollbackHandoff =>
    obtain ⟨inBegin, rfl⟩ : ∃ inBegin, s' = s.rollbackHandoff inBegin := by
      obtain ⟨-, ⟨-, hfalse⟩ | ⟨-, htrue⟩⟩ := hs
      · exact ⟨false, hfalse⟩
      · exact ⟨true, htrue⟩
    unfold PtyIoActor.rollbackHandoff
    dsimp only
    split_ifs
    · exact hsame h.live rfl rfl rfl
    · refine Undisturbed.callActor ?_ _ fun n => ⟨?_, fun m => ?_⟩
      · exact hsame h.live rfl rfl rfl
      · exact fun hn => nomatch hn
      · exact fun hn => nomatch hn
  | rollbackReplied =>
    obtain ⟨inBegin, ok, -, -, rfl⟩ := hs
    cases ok <;> exact hsame h.live rfl rfl rfl
  | rollbackTimedOut =>
    obtain ⟨inBegin, -, -, rfl⟩ := hs
    exact hsame h.live rfl rfl rfl
  | duplicateForHandoff =>
    obtain ⟨-, -, rfl⟩ := hs
    split_ifs
    · exact h
    · refine Undisturbed.callActor ?_ _ fun n => ⟨?_, fun m => ?_⟩
      · exact hsame h.live rfl rfl rfl
      · exact fun hn => nomatch hn
      · exact fun hn => nomatch hn
  | duplicateReturned =>
    obtain ⟨-, rfl⟩ := hs
    exact hsame h.live rfl rfl rfl
  | releaseClose =>
    obtain ⟨-, -, rfl⟩ := hs
    exact hsame h.live rfl rfl rfl
  | releaseSend => exact absurd trivial hkeeps
  | releaseReturned =>
    obtain ⟨-, rfl⟩ := hs
    exact hsame h.live rfl rfl rfl
  | actor event => exact h.actorStep hkeeps hs

namespace PtyIoActor

lemma start_undisturbed (initiallyQuiesced : Bool) : (start initiallyQuiesced).Undisturbed where
  live := rfl
  writeFailed := rfl
  handlesDropped := rfl
  controlQueue _ hc := nomatch hc

/-- The PTY receives the queued messages in their order: all of them before the head of the queue,
and as much of it as the offset says. Before `begin_handoff` returns `Ok` every accepted input is
written, and as long as nothing happens that drops inputs all of them are written or wait. -/
theorem written_in_queue_order {initiallyQuiesced : Bool} {actions : List PtyAction}
    {s : PtyIoActor}
    (hrun : Run (fun s a s' => PtyAction.Step s a s') (start initiallyQuiesced) actions s) :
    ∃ settled : List (Message × Nat),
      s.queued = settled.map Prod.fst ++ s.pendingWrites ∧
      s.written = sent Message.bytes settled ++
        s.pendingWrites.head?.elim [] (fun m => m.bytes.take s.currentWriteOffset) ∧
      (s.writeFailed = false → s.state ≠ .released → ∀ p ∈ settled, WholeMessage Message.bytes p) ∧
      s.accepted.filter (· ≠ []) =
        inputs (settled.map Prod.fst) ++ inputs s.pendingWrites ++ s.dataQueue.filter (· ≠ []) ∧
      (s.controller = .beginning → s.reply = some true →
        s.accepted.filter (· ≠ []) = inputs (settled.map Prod.fst) ∧
          (s.writeFailed = false → ∀ p ∈ settled, WholeMessage Message.bytes p)) ∧
      ((∀ a ∈ actions, ¬a.Drops) → s.phase.exitCause = none ∧
        ∀ p ∈ settled, WholeMessage Message.bytes p) := by
  have hstep (s : PtyIoActor) (a : PtyAction) (s' : PtyIoActor) (h : s.Delivery)
      (hs : a.Step s s') : s'.Delivery :=
    hs.delivery h
  have h := hrun.invariant hstep (start_delivery initiallyQuiesced)
  obtain ⟨settled, hdelivers⟩ := h.delivered
  have hinputs : s.accepted.filter (· ≠ []) =
      inputs (settled.map Prod.fst) ++ inputs s.pendingWrites ++ s.dataQueue.filter (· ≠ []) := by
    have haccounted := h.accounted
    rw [Accounted, hdelivers.outlet.queued_eq, inputs_append] at haccounted
    exact haccounted
  refine ⟨settled, hdelivers.outlet.queued_eq, hdelivers.outlet.written_eq, hdelivers.whole,
    hinputs, fun hbeginning hreply => ?_, fun hkeeps => ?_⟩
  · have hbegun : s.Begun := ⟨hbeginning, hreply⟩
    refine ⟨?_, fun hfailed => hdelivers.whole hfailed (h.emptied.unreleased hbegun)⟩
    rw [hinputs, h.emptied.pendingWrites hbegun, h.emptied.dataQueue hbegun, List.append_nil]
    exact List.append_nil _
  · have hcalm (s : PtyIoActor) (a : PtyAction) (s' : PtyIoActor) (hkeep : ¬a.Drops)
        (h : s.Undisturbed) (hs : a.Step s s') : s'.Undisturbed :=
      hs.undisturbed hkeep h
    have hu := hrun.invariant_of_labels hcalm hkeeps (start_undisturbed initiallyQuiesced)
    exact ⟨hu.live, hdelivers.whole hu.writeFailed (h.handshake.agreed.unreleased hu.live)⟩

/-- An input of two bytes that is written in two pieces while the actor works on `begin_handoff`. -/
def writtenInPieces : List PtyAction :=
  [.tryWriteUserInput [1, 2], .beginHandoff, .actor .go, .actor .go, .actor .go, .actor .go,
    .actor .go, .actor (.write (.wrote 1)), .actor (.write (.wrote 1)), .actor .go, .actor .go]

theorem written_in_queue_order_in_pieces :
    ∃ s, Run (fun s a s' => PtyAction.Step s a s') (start false) writtenInPieces s ∧
      s.written = [1, 2] ∧ s.controller = .beginning ∧ s.reply = some true ∧
      ∃ settled : List (Message × Nat), s.accepted.filter (· ≠ []) = inputs (settled.map Prod.fst) ∧
        ∀ p ∈ settled, WholeMessage Message.bytes p := by
  have hrun : Run (fun s a s' => PtyAction.Step s a s') (start false) writtenInPieces _ :=
    .cons ⟨rfl, rfl⟩ <| .cons ⟨rfl, rfl, rfl⟩ <| .cons rfl <| .cons rfl <| .cons rfl <| .cons rfl <|
    .cons rfl <| .cons rfl <| .cons rfl <| .cons rfl <| .cons rfl (.nil _)
  obtain ⟨settled, -, -, -, -, hbegun, -⟩ := written_in_queue_order hrun
  obtain ⟨haccepted, hwhole⟩ := hbegun rfl rfl
  exact ⟨_, hrun, rfl, rfl, rfl, settled, haccepted, hwhole rfl⟩

/-- The child has closed the PTY: the actor ends at the end of its output with an input it has
accepted. -/
def inputBeforeEof : List PtyAction :=
  [.actor .go, .actor .go, .actor .go, .actor .go, .actor (.ready false false true),
    .tryWriteUserInput [1], .actor (.read .eof), .actor .go, .actor .go]

theorem input_dropped_at_eof :
    (PtyAction.shutdownSend ∉ inputBeforeEof ∧ PtyAction.releaseSend ∉ inputBeforeEof ∧
      PtyAction.actor (.write .failed) ∉ inputBeforeEof) ∧
    ∃ s, Run (fun s a s' => PtyAction.Step s a s') (start false) inputBeforeEof s ∧
      s.accepted = [[1]] ∧ s.written = [] ∧ ∀ event, s.actorStep event = none := by
  have hrun : Run (fun s a s' => PtyAction.Step s a s') (start false) inputBeforeEof _ :=
    .cons rfl <| .cons rfl <| .cons rfl <| .cons rfl <| .cons rfl <| .cons ⟨rfl, rfl⟩ <|
    .cons rfl <| .cons rfl <| .cons rfl (.nil _)
  refine ⟨by simp [inputBeforeEof], _, hrun, rfl, rfl, fun event => ?_⟩
  cases event <;> rfl

end PtyIoActor

end Ork3.Pty
